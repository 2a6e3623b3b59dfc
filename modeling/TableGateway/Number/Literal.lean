import TableGateway.Number.Double
import TableGateway.Number.Numeral
import TableGateway.Text.Letter

/-! # Reading doubles -/

namespace TableGateway.Double

/-- Digits with an optional point among them or at either end: their value without the point, and
how many of them stand behind it. -/
def pointedDigits? (cs : List Char) : Option (Nat × Nat) :=
  let (whole, rest) := cs.span (· ≠ '.')
  let fraction := rest.drop 1
  (Numeral.natural? (whole ++ fraction)).map fun n => (n, fraction.length)

/-- Digits with an optional exponent behind `e` or `E`. -/
def unsignedDecimal? (negative : Bool) (cs : List Char) : Option Double := do
  let (mantissa, rest) := cs.span fun c => c ≠ 'e' && c ≠ 'E'
  let exponent ← match rest with
    | [] => some 0
    | _ :: cs => Numeral.signed? cs
  let (significand, places) ← pointedDigits? mantissa
  return ofDecimal negative significand (exponent - places)

/-- A decimal number, or one of the words for infinity and for no number in letters of either
case. -/
def unsignedLiteral? (negative : Bool) (cs : List Char) : Option Double :=
  let word := Text.lower (String.ofList cs)
  if word = "inf" ∨ word = "infinity" then some (infinity negative)
  else if word = "nan" then some (nan negative)
  else unsignedDecimal? negative cs

/-- The double nearest to what a text says. -/
def ofText? (s : String) : Option Double :=
  match s.toList with
  | '-' :: cs => unsignedLiteral? true cs
  | '+' :: cs => unsignedLiteral? false cs
  | cs => unsignedLiteral? false cs

end TableGateway.Double
