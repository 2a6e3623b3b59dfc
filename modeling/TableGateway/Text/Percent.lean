import TableGateway.Json.Grammar
import TableGateway.Text.Cut
import TableGateway.Text.Letter
import TableGateway.Text.Utf8

/-! # Escapes in addresses -/

namespace TableGateway.Text.Percent

/-- The bytes of an address. A percent sign with two hexadecimal digits is the byte that they say,
and stands for itself otherwise. -/
def bytes : List Char → List UInt8
  | [] => []
  | '%' :: a :: b :: cs =>
      match Json.hexDigit? a, Json.hexDigit? b with
      | some high, some low => UInt8.ofNat (high * 16 + low) :: bytes cs
      | _, _ => String.utf8EncodeChar '%' ++ bytes (a :: b :: cs)
  | c :: cs => String.utf8EncodeChar c ++ bytes cs

/-- The text of a part of a path. -/
def pathText? (s : String) : Option String :=
  Utf8.text? (bytes s.toList)

/-- The text of a name or a value in a query, where a plus sign is a space. -/
def formText (s : String) : String :=
  Utf8.lossyText (bytes (substitute '+' ' ' s).toList)

/-- The name and the value of a piece of a query. -/
def formPair (piece : String) : String × String :=
  match cut '=' piece with
  | some (name, value) => (formText name, formText value)
  | none => (formText piece, "")

/-- The pairs of a query, which ampersands separate. -/
def formPairs (query : String) : List (String × String) :=
  ((pieces '&' query).filter fun piece => !piece.toList.isEmpty).map formPair

end TableGateway.Text.Percent
