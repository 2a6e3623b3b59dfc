import TableGateway.Association
import TableGateway.Json.Basic
import TableGateway.Json.Grammar
import TableGateway.Number.Numeral

/-! # The value of a JSON text -/

namespace TableGateway.Json

/-! ## Strings -/

/-- The character of a surrogate pair. -/
def surrogatePair (high low : Nat) : Char :=
  Char.ofNat (0x10000 + (high - 0xD800) * 0x400 + (low - 0xDC00))

/-- The characters of a string. A surrogate stands for a character only in a pair. -/
def partsChars? : List StringPart → Option (List Char)
  | [] => some []
  | .char c :: parts => (partsChars? parts).map (c :: ·)
  | .unit n :: parts =>
      if 0xD800 ≤ n ∧ n < 0xDC00 then
        match parts with
        | .unit m :: parts =>
            if 0xDC00 ≤ m ∧ m < 0xE000 then (partsChars? parts).map (surrogatePair n m :: ·)
            else none
        | _ => none
      else if 0xDC00 ≤ n ∧ n < 0xE000 then none
      else (partsChars? parts).map (Char.ofNat n :: ·)

/-- The string that the parts stand for. -/
def partsString? (parts : List StringPart) : Option String :=
  (partsChars? parts).map String.ofList

/-! ## Numbers -/

/-- Appends digits to a significand for as long as it fits 64 bits. Gives the significand and how
many digits it took. -/
def accumulate (significand : Nat) : List Char → Nat × Nat
  | [] => (significand, 0)
  | c :: cs =>
      let next := significand * 10 + (c.toNat - '0'.toNat)
      if next < twoTo 64 then
        let (final, taken) := accumulate next cs
        (final, taken + 1)
      else (significand, 0)

/-- Multiplies by a power of ten in steps of at most 308 places, rounding at each step. There is
no result above the greatest double. -/
def scaledByTen? (x : Double) (exponent : Int) : Option Double :=
  if exponent.natAbs ≤ 308 then
    if exponent < 0 then some (x.dividedBy (Double.powerOfTen exponent.natAbs))
    else (some (x.times (Double.powerOfTen exponent.natAbs))).filter fun y => !y.isInfinite
  else if x.magnitude = 0 then some x
  else if 0 ≤ exponent then none
  else scaledByTen? (x.dividedBy (Double.powerOfTen 308)) (exponent + 308)
termination_by exponent.natAbs
decreasing_by omega

/-- The value of a written number. Digits beyond 64 bits of significand count only for its
magnitude; minus zero and integers out of range are doubles. -/
def Digits.value? (d : Digits) : Option Number :=
  let (whole, taken) := accumulate 0 d.whole
  let dropped := d.whole.length - taken
  let signed (x : Double) : Number := .float (if d.negative then x.negated else x)
  if d.fraction.isEmpty && d.exponent.isNone && dropped == 0 then
    if !d.negative then some (.integer whole)
    else if 0 < whole ∧ whole ≤ twoTo 63 then some (.integer (-whole))
    else some (signed (Double.ofInt whole))
  else
    let (significand, places) := accumulate whole d.fraction
    let exponent : Int := match d.exponent with
      | some (negative, ds) =>
          let n : Int := Nat.ofDigitChars 10 ds 0
          if negative then -n else n
      | none => 0
    (scaledByTen? (Double.ofInt significand) ((dropped : Int) - places + exponent)).map signed

/-! ## Values -/

mutual

/-- How deeply arrays and objects are nested. -/
def Tree.depth : Tree → Nat
  | .array items => itemsDepth items + 1
  | .object members => membersDepth members + 1
  | _ => 0

def itemsDepth : List Tree → Nat
  | [] => 0
  | v :: vs => max v.depth (itemsDepth vs)

def membersDepth : List (List StringPart × Tree) → Nat
  | [] => 0
  | (_, v) :: ms => max v.depth (membersDepth ms)

end

mutual

/-- The value that a tree stands for, whatever its depth. -/
def Tree.meaning? : Tree → Option Json
  | .null => some .null
  | .bool b => some (.bool b)
  | .number d => d.value?.map .number
  | .string parts => (partsString? parts).map .string
  | .array items => (itemsMeaning? items).map .array
  | .object members => (membersMeaning? [] members).map .object

def itemsMeaning? : List Tree → Option (List Json)
  | [] => some []
  | v :: vs =>
      match v.meaning?, itemsMeaning? vs with
      | some v, some vs => some (v :: vs)
      | _, _ => none

/-- Puts the members one by one behind those that stand before them. -/
def membersMeaning? (before : List (String × Json)) :
    List (List StringPart × Tree) → Option (List (String × Json))
  | [] => some before
  | (name, v) :: ms =>
      match partsString? name, v.meaning? with
      | some name, some v => membersMeaning? (Association.put name v before) ms
      | _, _ => none

end

/-- Arrays and objects may be nested this deeply. -/
def maxDepth : Nat := 127

/-- The value that a tree stands for. -/
def Tree.value? (t : Tree) : Option Json :=
  if t.depth ≤ maxDepth then t.meaning? else none

/-- The value of a JSON text. -/
def parse? (s : String) : Option Json :=
  (Tree.ofText? s).bind Tree.value?

end TableGateway.Json
