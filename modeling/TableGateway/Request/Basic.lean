import TableGateway.Json.Basic
import TableGateway.Request.Method
import TableGateway.Request.Prefer

/-! # Requests for the rows of a table -/

namespace TableGateway

namespace Request

/-! ## Headers -/

/-- The headers that bear on a statement. -/
structure Headers where
  range : Option String
  prefer : Prefer
  acceptProfile : Option String
  contentProfile : Option String

namespace Headers

def none : Headers := ⟨Option.none, Prefer.none, Option.none, Option.none⟩

/-- Takes one header into account. -/
def add (h : Headers) (name value : String) : Headers :=
  let name := Text.lower name
  if name = "range" then { h with range := some (Text.trim value) }
  else if name = "prefer" then { h with prefer := h.prefer.merge value }
  else if name = "accept-profile" then { h with acceptProfile := some (Text.trim value) }
  else if name = "content-profile" then { h with contentProfile := some (Text.trim value) }
  else h

/-- The headers of a request. The last one of a name wins, and preferences add up. -/
def ofPairs (pairs : List (String × String)) : Headers :=
  pairs.foldl (fun h (name, value) => h.add name value) none

end Headers

end Request

/-! ## Requests -/

/-- A request: its query is the list of parameters, repetitions kept. -/
structure Request where
  method : Request.Method
  table : String
  query : List (String × String)
  body : Option Json
  headers : Request.Headers

namespace Request

/-- The parameters that are no filters. -/
def reservedKeys : List String :=
  ["select", "order", "limit", "offset", "on_conflict", "columns"]

/-- The last value of a parameter. -/
def parameter? (r : Request) (key : String) : Option String :=
  r.query.reverse.lookup key

/-- The parameters that are filters. -/
def filters (r : Request) : List (String × String) :=
  r.query.filter fun (key, _) => key ∉ reservedKeys

/-- The schema that the caller asks for, if it names one. -/
def profile? (r : Request) : Option String :=
  let profile := if r.method.isRead then r.headers.acceptProfile else r.headers.contentProfile
  profile.filter fun p => !p.toList.isEmpty

end Request

end TableGateway
