import TableGateway.Number.Numeral

/-! # Decimal numbers of any length -/

namespace TableGateway

/-- The number `unscaled · 10 ^ -scale`. The scale is kept, so `1.0` and `1.00` differ. -/
structure Decimal where
  unscaled : Int
  scale : Int
deriving DecidableEq

namespace Decimal

/-! ## Reading -/

/-- The value of digits that may be grouped by underscores, the first of them being a digit. -/
def grouped? (cs : List Char) : Option Nat :=
  match cs with
  | '_' :: _ => none
  | _ => Numeral.natural? (cs.filter (· ≠ '_'))

/-- The value of grouped digits behind an optional sign. -/
def integer? : List Char → Option Int
  | '-' :: cs => (grouped? cs).map fun n => -(n : Int)
  | '+' :: cs => (grouped? cs).map Int.ofNat
  | cs => (grouped? cs).map Int.ofNat

/-- The integer without its point, and how many digits stood behind the point. -/
def pointed? (cs : List Char) : Option (Int × Nat) :=
  let (whole, rest) := cs.span (· ≠ '.')
  let fraction := rest.drop 1
  (integer? (whole ++ fraction)).map fun n => (n, (fraction.filter (· ≠ '_')).length)

/-- A number with an optional point and an optional exponent behind `e` or `E`. The exponent is a
word of 128 bits and the resulting scale one of 64. -/
def parse? (s : String) : Option Decimal := do
  let (mantissa, rest) := s.toList.span fun c => c ≠ 'e' && c ≠ 'E'
  let exponent ← match rest with
    | [] => some 0
    | _ :: cs => (Numeral.signed? cs).filter (Numeral.inWord 128)
  let (unscaled, places) ← pointed? mantissa
  let scale := (places : Int) - exponent
  if Numeral.inWord 64 scale then some ⟨unscaled, scale⟩ else none

/-! ## Groups of four digits -/

/-- A decimal number in groups of four digits: the first group counts `10000 ^ weight`. -/
structure Grouped where
  negative : Bool
  weight : Int
  scale : Int
  groups : List Nat
deriving DecidableEq

/-- The value of up to four digits filled up with zeros behind. -/
def group (cs : List Char) : Nat :=
  Nat.ofDigitChars 10 cs 0 * tenTo (4 - cs.length)

/-- Groups of four digits from the left, the last one filled up with zeros. -/
def groupsOfFour : Nat → List Char → List Nat
  | 0, _ => []
  | _, [] => []
  | fuel + 1, cs => group (cs.take 4) :: groupsOfFour fuel (cs.drop 4)

/-- The number in groups of four around the decimal point, without zero groups at the end.
There is none where the weight or the scale exceeds sixteen bits. -/
def grouped (x : Decimal) : Option Grouped :=
  let digits := Numeral.digits x.unscaled.natAbs
  let whole : Int := digits.length - x.scale
  let scale := max 0 x.scale
  let weight := if whole ≤ 0 then whole.tdiv 4 - 1 else (whole - 1).tdiv 4
  let lead := (whole % 4).toNat
  let first :=
    if lead = 0 then []
    else
      let head := digits.take lead
      [Nat.ofDigitChars 10 head 0 * tenTo (lead - head.length)]
  let groups := first ++ groupsOfFour digits.length (digits.drop lead)
  if Numeral.inWord 16 scale && Numeral.inWord 16 weight then
    some ⟨x.unscaled < 0, weight, scale, (groups.reverse.dropWhile (· = 0)).reverse⟩
  else none

end Decimal

end TableGateway
