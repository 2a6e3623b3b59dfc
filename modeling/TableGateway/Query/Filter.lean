import TableGateway.Sql.Fragment
import TableGateway.Sql.Value
import TableGateway.Text.Blank
import TableGateway.Text.Cut
import TableGateway.Text.Letter

/-! # Filters -/

namespace TableGateway.Query

/-! ## Operators -/

/-- How a column is compared with an operand. -/
inductive Operator where
  | eq
  | neq
  | gt
  | gte
  | lt
  | lte
  | like
  | ilike
  | is
  | in
  | cs
  | cd
deriving DecidableEq

namespace Operator

def all : List Operator :=
  [eq, neq, gt, gte, lt, lte, like, ilike, is, «in», cs, cd]

/-- The name of an operator in front of an operand. -/
def text : Operator → String
  | eq => "eq"
  | neq => "neq"
  | gt => "gt"
  | gte => "gte"
  | lt => "lt"
  | lte => "lte"
  | like => "like"
  | ilike => "ilike"
  | is => "is"
  | «in» => "in"
  | cs => "cs"
  | cd => "cd"

def ofText? (s : String) : Option Operator :=
  all.find? fun op => op.text = s

end Operator

/-! ## Reading -/

/-- A column, an operator, and the operand as it was written. -/
structure Filter where
  column : String
  operator : Operator
  operand : String
deriving DecidableEq

/-- The operator in front of the first point and the operand behind it. Without an operator there
the whole text is an operand to be equal to. -/
def splitOperand (raw : String) : Operator × String :=
  match Text.cut '.' raw with
  | none => (.eq, raw)
  | some (name, operand) =>
      match Operator.ofText? name with
      | some op => (op, operand)
      | none => (.eq, raw)

/-- The filter of a parameter whose key is a plain identifier. -/
def Filter.parse? (column raw : String) : Option Filter :=
  if Sql.Identifier.isValid column then
    let (operator, operand) := splitOperand raw
    some ⟨column, operator, operand⟩
  else none

/-! ## Conditions -/

/-- A condition of a statement, with the value for its placeholder if it has one. -/
structure Condition where
  fragments : List Sql.Fragment
  value : Option Sql.Value

/-- Takes the quotes off an item that stands between two of them. -/
def unquoted (item : String) : String :=
  (Text.between? "\"" "\"" item).getD item

/-- The items of a list in parentheses, which commas separate. Blank items are left out. -/
def listItems (raw : String) : List String :=
  let inner := Text.withoutBack ")" (Text.withoutFront "(" (Text.trim raw))
  (((Text.pieces ',' inner).map Text.trim).filter fun item => !item.toList.isEmpty).map unquoted

/-- The keyword of an operand of `is`. -/
def isKeyword? (operand : String) : Option String :=
  let operand := Text.lower operand
  if operand = "null" then some "NULL"
  else if operand = "true" then some "TRUE"
  else if operand = "false" then some "FALSE"
  else none

/-- A comparison of a column with the value of a placeholder. -/
def comparison (column symbol : String) (placeholder : Nat) (value : Sql.Value) : Condition :=
  ⟨[.name column, .fixed (" " ++ symbol ++ " "), .placeholder placeholder], some value⟩

/-- The condition of a filter. There is none for `is` with an operand that it does not know, and
no row passes a list without items. -/
def Filter.condition? (f : Filter) (placeholder : Nat) : Option Condition :=
  let compare (symbol : String) (operand : String) : Option Condition :=
    some (comparison f.column symbol placeholder (.text operand))
  match f.operator with
  | .eq => compare "=" f.operand
  | .neq => compare "!=" f.operand
  | .gt => compare ">" f.operand
  | .gte => compare ">=" f.operand
  | .lt => compare "<" f.operand
  | .lte => compare "<=" f.operand
  | .cs => compare "@>" f.operand
  | .cd => compare "<@" f.operand
  | .like => compare "LIKE" (Text.substitute '*' '%' f.operand)
  | .ilike => compare "ILIKE" (Text.substitute '*' '%' f.operand)
  | .is => (isKeyword? f.operand).map fun keyword =>
      ⟨[.name f.column, .fixed (" IS " ++ keyword)], none⟩
  | .in =>
      match listItems f.operand with
      | [] => some ⟨[.fixed "1=0"], none⟩
      | items => some ⟨[.name f.column, .fixed " = ANY(", .placeholder placeholder, .fixed ")"],
          some (.textArray items)⟩

/-! ## Conditions of a statement -/

/-- The conditions of all filters that have one. Placeholders are counted from the given one. -/
def conditions (placeholder : Nat) : List (String × String) → List Condition
  | [] => []
  | (column, raw) :: filters =>
      match (Filter.parse? column raw).bind fun f => f.condition? placeholder with
      | none => conditions placeholder filters
      | some c => c :: conditions (placeholder + c.value.toList.length) filters

/-- The values of the placeholders of conditions. -/
def conditionValues (cs : List Condition) : List Sql.Value :=
  cs.filterMap Condition.value

/-- The part of a statement that holds its conditions, all of which must be met. -/
def whereFragments : List Condition → List Sql.Fragment
  | [] => []
  | cs => .fixed " WHERE " :: [Sql.Fragment.fixed " AND "].intercalate (cs.map Condition.fragments)

end TableGateway.Query
