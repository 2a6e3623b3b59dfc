/-! # Identifiers

A plain identifier needs no care: it holds letters, digits and underscores only. Any text but the
empty one can be a quoted identifier, in which a quote is written twice.
-/

namespace TableGateway.Sql.Identifier

/-! ## Plain identifiers -/

/-- The greatest length of an identifier. -/
def maxLength : Nat := 63

/-- The letters `A` to `Z` and `a` to `z`, the digits and the underscore. -/
def isNameChar (c : Char) : Bool :=
  c.isAlphanum || c == '_'

/-- One to sixty-three characters, all of them allowed in a plain identifier. -/
def isValid (s : String) : Bool :=
  !s.toList.isEmpty && s.toList.length ≤ maxLength && s.toList.all isNameChar

/-! ## Quoted identifiers -/

/-- A character as it stands between the quotes. -/
def doubled (c : Char) : List Char :=
  if c = '"' then ['"', '"'] else [c]

/-- An identifier between its quotes. -/
def quotedChars (s : String) : List Char :=
  '"' :: s.toList.flatMap doubled ++ ['"']

def quoted (s : String) : String :=
  String.ofList (quotedChars s)

/-- Why a text is no identifier. -/
inductive Error where
  | empty
deriving DecidableEq

def Error.message : Error → String
  | .empty => "identifier must be a non-empty string"

/-- The quoted form of a text that is not empty. -/
def quote (s : String) : Except Error String :=
  if s.toList.isEmpty then .error .empty else .ok (quoted s)

/-- The quoted name of a table, behind the name of its schema where there is one. -/
def qualified (schema : Option String) (table : String) : Except Error String :=
  match schema with
  | none => quote table
  | some schema => do
      let schema ← quote schema
      let table ← quote table
      return schema ++ "." ++ table

end TableGateway.Sql.Identifier
