import TableGateway.Json.Basic
import TableGateway.Number.Decimal
import TableGateway.Text.Cut
import TableGateway.Text.Letter
import TableGateway.Time.Civil
import TableGateway.Uuid

/-! # Typed parameters -/

namespace TableGateway

namespace Parameter

/-! ## Types -/

/-- The kinds of values that a parameter may have. -/
inductive Kind where
  | bool
  | int2
  | int4
  | int8
  | float4
  | float8
  | numeric
  | text
  | uuid
  | json
  | date
  | timestamp
  | timestamptz
deriving DecidableEq

/-- The kind of a type name in upper case. -/
def Kind.ofName? (name : String) : Option Kind :=
  if name = "BOOL" then some .bool
  else if name = "INT2" then some .int2
  else if name = "INT4" then some .int4
  else if name = "INT8" then some .int8
  else if name = "FLOAT4" then some .float4
  else if name = "FLOAT8" then some .float8
  else if name = "NUMERIC" then some .numeric
  else if name ∈ ["TEXT", "VARCHAR", "BPCHAR", "CHAR", "NAME", "UNKNOWN"] then some .text
  else if name = "UUID" then some .uuid
  else if name ∈ ["JSON", "JSONB"] then some .json
  else if name = "DATE" then some .date
  else if name = "TIMESTAMP" then some .timestamp
  else if name = "TIMESTAMPTZ" then some .timestamptz
  else none

/-- The type of a parameter, a single value or an array of them. -/
structure SqlType where
  element : Option Kind
  isArray : Bool
deriving DecidableEq

/-- The type of a name, whatever the case of its letters. Its element is none where the name is
not known. -/
def SqlType.ofName (name : String) : SqlType :=
  let name := Text.upper name
  match Text.beforeBack? "[]" name with
  | some element => ⟨Kind.ofName? element, true⟩
  | none => ⟨Kind.ofName? name, false⟩

/-! ## Values -/

/-- A value of some kind. -/
inductive Datum where
  | bool (b : Bool)
  | integer (n : Int)
  | single (bits : UInt32)
  | double (x : Double)
  | decimal (x : Decimal)
  | text (s : String)
  | uuid (u : Uuid)
  | json (v : Json)
  | date (d : Date)
  /-- A civil time, which for an instant is its universal time. -/
  | time (t : DateTime)

end Parameter

/-- A parameter as a statement takes it. Either form may be the null of its type. -/
inductive Parameter where
  | scalar (kind : Parameter.Kind) (value : Option Parameter.Datum)
  | array (kind : Parameter.Kind) (items : Option (List Parameter.Datum))

namespace Parameter

/-- A value that can be sent. A decimal number has bounds on its weight and its scale. -/
def Datum.isEncodable : Datum → Bool
  | decimal x => x.grouped.isSome
  | _ => true

def isEncodable : Parameter → Bool
  | scalar _ value => value.all Datum.isEncodable
  | array _ items => items.all fun ds => ds.all Datum.isEncodable

/-- A text that is there. -/
def ofText (s : String) : Parameter :=
  scalar .text (some (.text s))

end Parameter

end TableGateway
