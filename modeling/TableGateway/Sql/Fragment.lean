import TableGateway.Number.Numeral
import TableGateway.Sql.Identifier

/-! # Statement texts in fragments

A statement is put together from fragments, and its text is what they say one after the other. A
value never becomes a fragment: it stands behind a placeholder.
-/

namespace TableGateway.Sql

/-- A piece of the text of a statement. -/
inductive Fragment where
  /-- Keywords and punctuation with the blanks around them. -/
  | fixed (text : String)
  /-- A quoted identifier. -/
  | name (identifier : String)
  /-- The place of a parameter, counted from one. -/
  | placeholder (index : Nat)
  /-- A decimal number. -/
  | number (n : Nat)
  /-- An expression taken over as it stands. -/
  | expression (text : String)
deriving DecidableEq

namespace Fragment

def chars : Fragment → List Char
  | fixed text => text.toList
  | name identifier => Identifier.quotedChars identifier
  | placeholder index => '$' :: Numeral.digits index
  | number n => Numeral.digits n
  | expression text => text.toList

/-- Items with commas between them. -/
def listed (items : List (List Fragment)) : List Fragment :=
  [fixed ", "].intercalate items

/-- Quoted identifiers with commas between them. -/
def names (identifiers : List String) : List Fragment :=
  listed (identifiers.map fun identifier => [name identifier])

end Fragment

/-- The text that the fragments make up. -/
def render (fragments : List Fragment) : String :=
  String.ofList (fragments.flatMap Fragment.chars)

end TableGateway.Sql
