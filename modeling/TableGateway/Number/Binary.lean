import TableGateway.Number.Power

/-! # Rounding a quotient to a binary floating-point format

A format has a sign bit, an exponent field and a fraction field, with the special values and the
gradual underflow of the standard formats. A magnitude is a pattern without its sign bit.
-/

namespace TableGateway.Number

/-- The widths of the two fields behind the sign bit. -/
structure BinaryFormat where
  fractionBits : Nat
  exponentBits : Nat
deriving DecidableEq

namespace BinaryFormat

/-- Sixty-four bits: eleven for the exponent and fifty-two for the fraction. -/
def double : BinaryFormat := ⟨52, 11⟩

/-- Thirty-two bits: eight for the exponent and twenty-three for the fraction. -/
def single : BinaryFormat := ⟨23, 8⟩

/-- The exponent of the unit in the last place of the smallest magnitudes. -/
def leastScale (format : BinaryFormat) : Int :=
  2 - twoTo (format.exponentBits - 1) - format.fractionBits

/-- The magnitude of infinity: every exponent bit set and the fraction empty. -/
def infinity (format : BinaryFormat) : Nat :=
  (twoTo format.exponentBits - 1) * twoTo format.fractionBits

/-- The magnitude of the quiet not-a-number value. -/
def quietNaN (format : BinaryFormat) : Nat :=
  format.infinity + twoTo (format.fractionBits - 1)

end BinaryFormat

/-! ## Powers of two -/

/-- The numerator and the denominator after multiplication by a power of two. -/
def scaleByTwo (numerator denominator : Nat) (power : Int) : Nat × Nat :=
  if power < 0 then (numerator, denominator * twoTo power.natAbs)
  else (numerator * twoTo power.natAbs, denominator)

/-- The exponent of the greatest power of two that is at most a positive quotient. -/
def floorLog2 (numerator denominator : Nat) : Int :=
  let estimate : Int := (numerator.log2 : Int) - (denominator.log2 : Int)
  let (n, d) := scaleByTwo numerator denominator (-estimate)
  if d ≤ n then estimate else estimate - 1

/-! ## Rounding -/

/-- The integer nearest to a quotient, an even one where two are equally near. -/
def nearestEven (numerator denominator : Nat) : Nat :=
  let floor := numerator / denominator
  let twice := 2 * (numerator % denominator)
  if twice < denominator then floor
  else if denominator < twice then floor + 1
  else if floor % 2 = 0 then floor
  else floor + 1

/-- The magnitude nearest to a quotient, with ties to the even fraction. -/
def BinaryFormat.round (format : BinaryFormat) (numerator denominator : Nat) : Nat :=
  if numerator = 0 then 0
  else
    let scale := max format.leastScale (floorLog2 numerator denominator - format.fractionBits)
    let (n, d) := scaleByTwo numerator denominator (-scale)
    let field := (scale - format.leastScale).toNat
    min format.infinity (field * twoTo format.fractionBits + nearestEven n d)

end TableGateway.Number
