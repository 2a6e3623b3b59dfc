import TableGateway.Json.Basic
import TableGateway.Number.Numeral
import TableGateway.Number.Shortest

/-! # Writing JSON

Values are written without blanks. A string escapes the quote, the backslash and the control
characters below the space, and nothing else.
-/

namespace TableGateway.Json

/-! ## Strings -/

/-- A character as it stands between the quotes of a string. -/
def escaped (c : Char) : List Char :=
  match c with
  | '"' => ['\\', '"']
  | '\\' => ['\\', '\\']
  | '\x08' => ['\\', 'b']
  | '\x0c' => ['\\', 'f']
  | '\n' => ['\\', 'n']
  | '\r' => ['\\', 'r']
  | '\t' => ['\\', 't']
  | c => if c.toNat < 0x20 then '\\' :: 'u' :: Numeral.hexadecimal 4 c.toNat else [c]

/-- A string between its quotes. -/
def quotedChars (s : String) : List Char :=
  '"' :: s.toList.flatMap escaped ++ ['"']

/-! ## Numbers -/

/-- Digits with a point behind the first of them, or alone where there is only one. -/
def scientificDigits : List Char → List Char
  | d :: e :: ds => d :: '.' :: e :: ds
  | ds => ds

/-- A double in plain decimal form from a hundred-thousandth up to 10 ^ 16, else in scientific
form. The plain form has a digit on either side of the point, the exponent has a sign. -/
def floatChars (x : Double) : List Char :=
  let f := x.shortest
  let ds := Numeral.digits f.digits
  let leading := (ds.length : Int) - 1 + f.exponent
  let sign := if x.isNegative then ['-'] else []
  let text :=
    if f.digits = 0 then ['0', '.', '0']
    else if leading < -5 ∨ 16 ≤ leading then
      scientificDigits ds ++ ['e', if leading < 0 then '-' else '+']
        ++ Numeral.digits leading.natAbs
    else if 0 ≤ f.exponent then
      ds ++ List.replicate f.exponent.toNat '0' ++ ['.', '0']
    else if 0 ≤ leading then
      ds.take (leading.toNat + 1) ++ '.' :: ds.drop (leading.toNat + 1)
    else
      '0' :: '.' :: List.replicate (leading.natAbs - 1) '0' ++ ds
  sign ++ text

/-- The characters of a number. -/
def Number.chars : Number → List Char
  | .integer n => Numeral.ofInt n
  | .float x => floatChars x

/-- The text of a number. -/
def Number.text (n : Number) : String :=
  String.ofList n.chars

/-! ## Values -/

mutual

/-- The characters of a value. -/
def chars : Json → List Char
  | .null => ['n', 'u', 'l', 'l']
  | .bool true => ['t', 'r', 'u', 'e']
  | .bool false => ['f', 'a', 'l', 's', 'e']
  | .number n => n.chars
  | .string s => quotedChars s
  | .array items => '[' :: itemsChars items
  | .object members => '{' :: membersChars members

/-- The items of an array up to its closing bracket. -/
def itemsChars : List Json → List Char
  | [] => [']']
  | [v] => chars v ++ [']']
  | v :: vs => chars v ++ ',' :: itemsChars vs

/-- The members of an object up to its closing brace. -/
def membersChars : List (String × Json) → List Char
  | [] => ['\x7d']
  | [(name, v)] => quotedChars name ++ ':' :: chars v ++ ['\x7d']
  | (name, v) :: ms => quotedChars name ++ ':' :: chars v ++ ',' :: membersChars ms

end

/-- The text of a value. -/
def text (v : Json) : String :=
  String.ofList v.chars

end TableGateway.Json
