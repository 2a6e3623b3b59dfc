import TableGateway.Text.Blank
import TableGateway.Text.Cut

/-! # Preferences of a request -/

namespace TableGateway.Request

/-- What happens to a row that is already there. -/
inductive Resolution where
  | mergeDuplicates
  | ignoreDuplicates
deriving DecidableEq

/-- What a write answers with. -/
inductive ReturnPreference where
  | minimal
  | representation
deriving DecidableEq

/-- The preferences that a caller states. -/
structure Prefer where
  countExact : Bool
  resolution : Option Resolution
  returning : Option ReturnPreference
deriving DecidableEq

namespace Prefer

/-- No preference. -/
def none : Prefer := ⟨false, Option.none, Option.none⟩

/-- Takes one directive into account. One that is not known counts for nothing. -/
def apply (p : Prefer) (directive : String) : Prefer :=
  if directive = "count=exact" then { p with countExact := true }
  else if directive = "resolution=merge-duplicates" then
    { p with resolution := some .mergeDuplicates }
  else if directive = "resolution=ignore-duplicates" then
    { p with resolution := some .ignoreDuplicates }
  else if directive = "return=minimal" then { p with returning := some .minimal }
  else if directive = "return=representation" then { p with returning := some .representation }
  else p

/-- The directives of a header, which commas separate. -/
def directives (header : String) : List String :=
  (Text.pieces ',' header).map Text.trim

/-- Takes the directives of a header into account, the last one of a kind winning. -/
def merge (p : Prefer) (header : String) : Prefer :=
  (directives header).foldl apply p

def wantsMinimal (p : Prefer) : Bool :=
  p.returning = some .minimal

def wantsRepresentation (p : Prefer) : Bool :=
  p.returning = some .representation

end Prefer

end TableGateway.Request
