import TableGateway.Sql.Fragment
import TableGateway.Text.Blank
import TableGateway.Text.Cut
import TableGateway.Text.Letter

/-! # The order of a result -/

namespace TableGateway.Query

/-- Where the rows without a value stand. -/
inductive NullsPlace where
  | first
  | last
deriving DecidableEq

/-- A column to sort by. -/
structure OrderTerm where
  column : String
  descending : Bool
  nulls : Option NullsPlace
deriving DecidableEq

namespace OrderTerm

/-- Takes a modifier into account. One that is not known counts for nothing, and none makes the
order ascending again. -/
def modify (t : OrderTerm) (modifier : String) : OrderTerm :=
  let modifier := Text.lower modifier
  if modifier = "desc" then { t with descending := true }
  else if modifier = "nullsfirst" then { t with nulls := some .first }
  else if modifier = "nullslast" then { t with nulls := some .last }
  else t

/-- Reads a column with modifiers behind points. -/
def parse? (term : String) : Option OrderTerm :=
  match Text.pieces '.' term with
  | [] => none
  | column :: modifiers =>
      if Sql.Identifier.isValid column then some (modifiers.foldl modify ⟨column, false, none⟩)
      else none

def fragments (t : OrderTerm) : List Sql.Fragment :=
  let direction := if t.descending then " DESC" else " ASC"
  let nulls := match t.nulls with
    | none => ""
    | some .first => " NULLS FIRST"
    | some .last => " NULLS LAST"
  [.name t.column, .fixed (direction ++ nulls)]

end OrderTerm

/-- The terms of an order, which commas separate. A term that cannot be read is left out. -/
def orderTerms (raw : String) : List OrderTerm :=
  ((Text.pieces ',' raw).map Text.trim).filterMap OrderTerm.parse?

/-- The part of a statement that holds the order, if there is one. -/
def orderFragments (raw : Option String) : List Sql.Fragment :=
  match orderTerms (raw.getD "") with
  | [] => []
  | terms => .fixed " ORDER BY " :: Sql.Fragment.listed (terms.map OrderTerm.fragments)

end TableGateway.Query
