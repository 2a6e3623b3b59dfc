import TableGateway.Number.Binary

/-! # Double precision numbers

A double is its bit pattern. Every operation here is exact integer arithmetic followed by one
rounding to the nearest pattern.
-/

namespace TableGateway

/-- A floating-point number of sixty-four bits. -/
structure Double where
  bits : UInt64
deriving DecidableEq

namespace Double

open Number

/-! ## Fields -/

/-- The pattern with the given sign and magnitude. -/
def ofMagnitude (negative : Bool) (magnitude : Nat) : Double :=
  ⟨UInt64.ofNat (magnitude + if negative then twoTo 63 else 0)⟩

/-- The sign bit. -/
def isNegative (x : Double) : Bool :=
  twoTo 63 ≤ x.bits.toNat

/-- The pattern without its sign bit. -/
def magnitude (x : Double) : Nat :=
  x.bits.toNat % twoTo 63

def isNaN (x : Double) : Bool :=
  BinaryFormat.double.infinity < x.magnitude

def isInfinite (x : Double) : Bool :=
  x.magnitude == BinaryFormat.double.infinity

/-- The integer that the unit in the last place is multiplied by. -/
def significand (x : Double) : Nat :=
  let fraction := x.magnitude % twoTo 52
  if x.magnitude / twoTo 52 = 0 then fraction else twoTo 52 + fraction

/-- The exponent of two of the unit in the last place. -/
def scale (x : Double) : Int :=
  BinaryFormat.double.leastScale + ((x.magnitude / twoTo 52 - 1 : Nat) : Int)

/-- The absolute value of a finite double as a quotient. -/
def quotient (x : Double) : Nat × Nat :=
  scaleByTwo x.significand 1 x.scale

/-! ## Arithmetic -/

def infinity (negative : Bool) : Double :=
  ofMagnitude negative BinaryFormat.double.infinity

def nan (negative : Bool) : Double :=
  ofMagnitude negative BinaryFormat.double.quietNaN

/-- The double nearest to a quotient. -/
def ofQuotient (negative : Bool) (numerator denominator : Nat) : Double :=
  ofMagnitude negative (BinaryFormat.double.round numerator denominator)

/-- The double nearest to an integer. -/
def ofInt (n : Int) : Double :=
  ofQuotient (n < 0) n.natAbs 1

/-- The nearest double to a power of ten. -/
def powerOfTen (n : Nat) : Double :=
  ofQuotient false (tenTo n) 1

/-- The double nearest to the product of two finite doubles that are not negative. -/
def times (x y : Double) : Double :=
  let (n, d) := x.quotient
  let (n', d') := y.quotient
  ofQuotient false (n * n') (d * d')

/-- The double nearest to the quotient of two finite doubles, the second above zero. -/
def dividedBy (x y : Double) : Double :=
  let (n, d) := x.quotient
  let (n', d') := y.quotient
  ofQuotient false (n * d') (d * n')

/-- The same number with the other sign bit. -/
def negated (x : Double) : Double :=
  ofMagnitude (!x.isNegative) x.magnitude

/-! ## Decimal fractions -/

/-- The double nearest to `significand · 10 ^ exponent`. Beyond four hundred places on either
side of the leading digit every double has ended, so the power is never written out there. -/
def ofDecimal (negative : Bool) (significand : Nat) (exponent : Int) : Double :=
  let leading := (Nat.toDigits 10 significand).length + exponent
  if significand = 0 ∨ leading < -400 then ofMagnitude negative 0
  else if 400 < leading then infinity negative
  else if exponent < 0 then ofQuotient negative significand (tenTo exponent.natAbs)
  else ofQuotient negative (significand * tenTo exponent.natAbs) 1

/-! ## Single precision -/

/-- The pattern of the nearest number of thirty-two bits. -/
def toSingle (x : Double) : UInt32 :=
  let magnitude :=
    if x.isNaN then BinaryFormat.single.quietNaN
    else if x.isInfinite then BinaryFormat.single.infinity
    else
      let (n, d) := x.quotient
      BinaryFormat.single.round n d
  UInt32.ofNat (magnitude + if x.isNegative then twoTo 31 else 0)

end Double

end TableGateway
