import TableGateway.Number.Power

/-! # Decimal numerals -/

namespace TableGateway.Numeral

/-! ## Reading -/

/-- The value of one or more decimal digits, and nothing else. -/
def natural? (cs : List Char) : Option Nat :=
  if !cs.isEmpty && cs.all Char.isDigit then some (Nat.ofDigitChars 10 cs 0) else none

/-- The value of decimal digits behind an optional plus sign. -/
def unsigned? : List Char → Option Nat
  | '+' :: cs => natural? cs
  | cs => natural? cs

/-- The value of decimal digits behind an optional sign. -/
def signed? : List Char → Option Int
  | '-' :: cs => (natural? cs).map fun n => -(n : Int)
  | cs => (unsigned? cs).map Int.ofNat

/-- An unsigned numeral of at most `bits` binary digits. -/
def word? (bits : Nat) (s : String) : Option Nat :=
  (unsigned? s.toList).filter (· < twoTo bits)

/-- The integers of a two's complement word of `bits` binary digits. -/
def inWord (bits : Nat) (n : Int) : Bool :=
  -(twoTo (bits - 1) : Int) ≤ n && n < twoTo (bits - 1)

/-- A signed numeral whose value fits a two's complement word of `bits` binary digits. -/
def signedWord? (bits : Nat) (s : String) : Option Int :=
  (signed? s.toList).filter (inWord bits)

/-! ## Writing -/

/-- The digits of a number, without leading zeros. -/
def digits (n : Nat) : List Char :=
  Nat.toDigits 10 n

/-- The text of a number. -/
def text (n : Nat) : String :=
  String.ofList (digits n)

/-- The digits of an integer behind a minus sign where it is negative. -/
def ofInt (n : Int) : List Char :=
  if n < 0 then '-' :: digits n.natAbs else digits n.natAbs

/-- The digits of a number, filled up with zeros in front to the given width. -/
def padded (width n : Nat) : List Char :=
  List.replicate (width - (digits n).length) '0' ++ digits n

/-- The lower case hexadecimal digits of a number, filled up with zeros to the given width. -/
def hexadecimal (width n : Nat) : List Char :=
  let ds := Nat.toDigits 16 n
  List.replicate (width - ds.length) '0' ++ ds

theorem natural?_digits (n : Nat) : natural? (digits n) = some n := by
  have hall : (digits n).all Char.isDigit = true := by
    rw [List.all_eq_true]
    intro c hc
    exact Nat.isDigit_of_mem_toDigits (by decide) (by decide) hc
  have hne : (digits n).isEmpty = false := by
    cases h : digits n with
    | nil => exact absurd h (by simp [digits])
    | cons c cs => rfl
  simp only [natural?, hall, hne, Bool.not_false, Bool.and_self, if_true]
  exact congrArg some (Nat.ofDigitChars_toDigits (by decide) (by decide))

end TableGateway.Numeral
