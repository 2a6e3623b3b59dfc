import TableGateway.Number.Double

/-! # The shortest decimal that reads back

Among the decimal fractions that round to a double, the one with the fewest digits, and of these
the nearest to it.
-/

namespace TableGateway.Double

open Number

/-- A decimal fraction `digits · 10 ^ exponent`. -/
structure DecimalFraction where
  digits : Nat
  exponent : Int
deriving DecidableEq

/-- The exponent of the greatest power of ten that is at most a positive quotient. -/
def floorLog10 (numerator denominator : Nat) : Int :=
  if denominator ≤ numerator then ((Nat.toDigits 10 (numerator / denominator)).length : Int) - 1
  else -((Nat.toDigits 10 ((denominator - 1) / numerator)).length : Int)

/-- The positive reals that round to a double, in quarters of its unit in the last place. -/
structure RoundingInterval where
  lower : Nat
  value : Nat
  upper : Nat
  /-- The two ends round to the double as well. -/
  closed : Bool

/-- The interval of a positive finite double. Below a power of two the neighbours are half as
far away, the smallest magnitudes apart. -/
def roundingInterval (x : Double) : RoundingInterval :=
  let m := x.significand
  let below := if m = twoTo 52 ∧ BinaryFormat.double.leastScale < x.scale then 1 else 2
  ⟨4 * m - below, 4 * m, 4 * m + 2, m % 2 = 0⟩

/-- The interval holds `candidate · grid`, all three of its points being multiplied by `factor`. -/
def RoundingInterval.holds (r : RoundingInterval) (factor grid candidate : Nat) : Bool :=
  let point := candidate * grid
  if r.closed then r.lower * factor ≤ point && point ≤ r.upper * factor
  else r.lower * factor < point && point < r.upper * factor

/-- The multiple of `10 ^ power` nearest to the double, if one of its two neighbours on that grid
rounds to it. -/
def onGrid? (x : Double) (power : Int) : Option Nat :=
  let r := x.roundingInterval
  let (factor, grid) := scaleByTwo 1 1 (x.scale - 2)
  let factor := if power < 0 then factor * tenTo power.natAbs else factor
  let grid := if power < 0 then grid else grid * tenTo power.natAbs
  let floor := r.value * factor / grid
  let rest := 2 * (r.value * factor % grid)
  let preferFloor := rest < grid || (rest == grid && floor % 2 == 0)
  let (first, second) := if preferFloor then (floor, floor + 1) else (floor + 1, floor)
  if r.holds factor grid first then some first
  else if r.holds factor grid second then some second
  else none

/-- The fraction with no zero at the end of its digits. -/
def DecimalFraction.stripped : Nat → DecimalFraction → DecimalFraction
  | 0, f => f
  | fuel + 1, f =>
      if f.digits ≠ 0 ∧ f.digits % 10 = 0 then stripped fuel ⟨f.digits / 10, f.exponent + 1⟩
      else f

/-- Tries one digit, then two, and so on up to the seventeen that always suffice. -/
def shortest (x : Double) : DecimalFraction :=
  if x.significand = 0 then ⟨0, 0⟩
  else
    let (n, d) := x.quotient
    let leading := floorLog10 n d
    let found := (List.range 17).findSome? fun (more : Nat) =>
      (x.onGrid? (leading - more)).map fun digits => DecimalFraction.mk digits (leading - more)
    match found with
    | some f => f.stripped 20
    | none => ⟨0, 0⟩

end TableGateway.Double
