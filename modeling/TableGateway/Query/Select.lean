import TableGateway.Query.Error
import TableGateway.Sql.Fragment
import TableGateway.Text.Blank
import TableGateway.Text.Cut

/-! # The columns of a result -/

namespace TableGateway.Query

/-! ## Entries -/

/-- Splits at the commas that stand outside of parentheses. A closing parenthesis without an
opening one is passed over. -/
def splitChars (depth : Nat) : List Char → List (List Char)
  | [] => [[]]
  | c :: cs =>
      if c = ',' ∧ depth = 0 then [] :: splitChars 0 cs
      else
        let depth := if c = '(' then depth + 1 else if c = ')' then depth - 1 else depth
        match splitChars depth cs with
        | [] => [[c]]
        | part :: parts => (c :: part) :: parts

/-- The entries of a list, which commas outside of parentheses separate. -/
def splitTopLevel (raw : String) : List String :=
  (splitChars 0 raw.toList).map String.ofList

/-- The marks that end a statement or open a comment. -/
def forbiddenMarks : List String := [";", "--", "/*"]

/-- An entry that is taken over as it stands. -/
def isExpression (entry : String) : Bool :=
  ["(", "->", "::", "."].any fun mark => Text.occursIn mark entry

/-- A name with blanks around it. -/
def columnName (name : String) : Except Error String :=
  let name := Text.trim name
  if Sql.Identifier.isValid name then .ok name else .error (.invalidIdentifier "select list entry")

/-- The fragments of one entry: the star, an expression, or a column with an optional name of its
own behind a colon. -/
def selectEntry (entry : String) : Except Error (List Sql.Fragment) :=
  if forbiddenMarks.any fun mark => Text.occursIn mark entry then
    .error (.invalidIdentifier "select list entry")
  else if entry = "*" then .ok [.fixed "*"]
  else if isExpression entry then .ok [.expression entry]
  else
    match Text.cut ':' entry with
    | none => do
        let column ← columnName entry
        return [.name column]
    | some (column, label) => do
        let column ← columnName column
        let label ← columnName label
        return [.name column, .fixed " AS ", .name label]

/-! ## Lists -/

/-- The fragments of the entries that are not blank, or what is wrong with the first bad one. -/
def selectEntries (entries : List String) : Except Error (List (List Sql.Fragment)) :=
  ((entries.map Text.trim).filter fun entry => !entry.toList.isEmpty).mapM selectEntry

/-- The columns of a result, all of them where none is named. -/
def selectList (raw : Option String) : Except Error (List Sql.Fragment) := do
  match ← selectEntries (splitTopLevel (raw.getD "")) with
  | [] => return [.fixed "*"]
  | entries => return Sql.Fragment.listed entries

end TableGateway.Query
