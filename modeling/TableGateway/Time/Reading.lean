import TableGateway.Number.Power
import TableGateway.Text.Blank
import TableGateway.Time.Civil

/-! # Reading dates and times

The steps below take characters from the front and give back the rest. Three forms are built from
them: a free form that allows short numbers and blanks before each of them, the strict Internet
format, and the latter with the freedom of the former.
-/

namespace TableGateway.TimeReading

/-! ## Steps -/

/-- What is read from the front, and the rest. -/
abbrev Step (α : Type) := List Char → Option (α × List Char)

/-- At least `least` digits and at most `most` of them. -/
def number (least most : Nat) : Step Nat := fun cs =>
  let digits := (cs.take most).takeWhile Char.isDigit
  if digits.length < least then none
  else some (Nat.ofDigitChars 10 digits 0, cs.drop digits.length)

/-- Any number of digits, but at least one. -/
def longNumber : Step Nat := fun cs => number 1 cs.length cs

def literal (c : Char) : Step Unit
  | d :: cs => if d = c then some ((), cs) else none
  | [] => none

def blanks : Step Unit := fun cs => some ((), cs.dropWhile Text.isBlank)

/-- One or two digits behind optional blanks. -/
def shortNumber : Step Nat := fun cs => number 1 2 (cs.dropWhile Text.isBlank)

/-- A year behind optional blanks: a sign and any number of digits, or up to four digits. -/
def freeYear : Step Int := fun cs =>
  match cs.dropWhile Text.isBlank with
  | '-' :: cs => (longNumber cs).map fun (n, cs) => (-(n : Int), cs)
  | '+' :: cs => (longNumber cs).map fun (n, cs) => ((n : Int), cs)
  | cs => (number 1 4 cs).map fun (n, cs) => ((n : Int), cs)

/-- The nanoseconds of an optional fraction, of which nine digits count. -/
def fraction : Step Nat
  | '.' :: cs =>
      match number 1 9 cs with
      | some (n, rest) =>
          some (n * tenTo (9 - (cs.length - rest.length)), rest.dropWhile Char.isDigit)
      | none => none
  | cs => some (0, cs)

/-- The seconds that a clock is ahead of universal time: two digits of hours and two of minutes
behind a sign. `colon` reads what stands between the two numbers. -/
def clockOffset (colon : Step Unit) (cs : List Char) : Option (Int × List Char) := do
  let (negative, cs) ← match cs with
    | '+' :: cs => some (false, cs)
    | '-' :: cs => some (true, cs)
    | '\u2212' :: cs => some (true, cs)
    | _ => none
  let (hours, cs) ← number 2 2 cs
  let ((), cs) ← colon cs
  let (minutes, cs) ← number 2 2 cs
  if hours < 24 ∧ minutes < 60 then
    let seconds : Int := hours * 3600 + minutes * 60
    some (if negative then -seconds else seconds, cs)
  else none

/-- A `Z` in either case for universal time, or an offset. -/
def zone (colon : Step Unit) : Step Int
  | 'Z' :: cs => some (0, cs)
  | 'z' :: cs => some (0, cs)
  | cs => clockOffset colon cs

/-- The result of a step that reads everything. -/
def whole? {α : Type} (step : Step α) (s : String) : Option α :=
  match step s.toList with
  | some (a, []) => some a
  | _ => none

/-! ## The free form -/

/-- A date: year, month and day with hyphens between them. -/
def freeDate (gap : Step Unit) : Step Date := fun cs => do
  let (year, cs) ← freeYear cs
  let ((), cs) ← gap cs
  let ((), cs) ← literal '-' cs
  let (month, cs) ← shortNumber cs
  let ((), cs) ← gap cs
  let ((), cs) ← literal '-' cs
  let (day, cs) ← shortNumber cs
  let date ← Date.ofParts? year month day
  return (date, cs)

/-- A time of day: hour, minute and second with colons between them, and a fraction. -/
def freeTime (gap : Step Unit) : Step TimeOfDay := fun cs => do
  let (hour, cs) ← shortNumber cs
  let ((), cs) ← gap cs
  let ((), cs) ← literal ':' cs
  let (minute, cs) ← shortNumber cs
  let ((), cs) ← gap cs
  let ((), cs) ← literal ':' cs
  let (second, cs) ← shortNumber cs
  let (nanosecond, cs) ← fraction cs
  let time ← TimeOfDay.ofParts? hour minute second nanosecond
  return (time, cs)

/-- Nothing may stand here. -/
def noGap : Step Unit := fun cs => some ((), cs)

/-- A date and a time with a separator between them. -/
def freeDateTime (separator : Step Unit) : Step DateTime := fun cs => do
  let (date, cs) ← freeDate noGap cs
  let ((), cs) ← separator cs
  let (time, cs) ← freeTime noGap cs
  return (⟨date, time⟩, cs)

/-! ## The Internet format -/

/-- A `T` in either case, or a space. -/
def internetSeparator : Step Unit
  | 'T' :: cs => some ((), cs)
  | 't' :: cs => some ((), cs)
  | ' ' :: cs => some ((), cs)
  | _ => none

/-- A date and a time in fields of fixed width with an offset, as universal time. -/
def internet : Step DateTime := fun cs => do
  let (year, cs) ← number 4 4 cs
  let ((), cs) ← literal '-' cs
  let (month, cs) ← number 2 2 cs
  let ((), cs) ← literal '-' cs
  let (day, cs) ← number 2 2 cs
  let ((), cs) ← internetSeparator cs
  let (hour, cs) ← number 2 2 cs
  let ((), cs) ← literal ':' cs
  let (minute, cs) ← number 2 2 cs
  let ((), cs) ← literal ':' cs
  let (second, cs) ← number 2 2 cs
  let (nanosecond, cs) ← fraction cs
  let (ahead, cs) ← zone (literal ':') cs
  let date ← Date.ofParts? year month day
  let time ← TimeOfDay.ofParts? hour minute second nanosecond
  let universal ← DateTime.toUniversal? ⟨date, time⟩ ahead
  return (universal, cs)

/-- `UTC` in either case, or a zone whose colon may be missing or stand among blanks. -/
def relaxedZone : Step Int
  | a :: b :: c :: cs =>
      if [a, b, c].map Char.toUpper = ['U', 'T', 'C'] then some (0, cs)
      else zone colonOrBlanks (a :: b :: c :: cs)
  | cs => zone colonOrBlanks cs
where
  colonOrBlanks : Step Unit := fun cs =>
    some ((), cs.dropWhile fun c => c == ':' || Text.isBlank c)

/-- The Internet format with short numbers, signed years and blanks between its parts. -/
def relaxedInternet : Step DateTime := fun cs => do
  let (date, cs) ← freeDate blanks cs
  let ((), cs) ← internetSeparator cs
  let (time, cs) ← freeTime blanks cs
  let ((), cs) ← blanks cs
  let (ahead, cs) ← relaxedZone cs
  let ((), cs) ← blanks cs
  let universal ← DateTime.toUniversal? ⟨date, time⟩ ahead
  return (universal, cs)

end TimeReading

/-! ## Whole texts -/

open TimeReading

/-- A date in the free form. -/
def Date.parse? (s : String) : Option Date :=
  whole? (freeDate noGap) s

/-- A universal time in the strict Internet format. -/
def DateTime.ofInternet? (s : String) : Option DateTime :=
  whole? internet s

/-- A universal time in the relaxed Internet format. -/
def DateTime.ofRelaxedInternet? (s : String) : Option DateTime :=
  whole? relaxedInternet s

/-- A date and a time in the free form, with a `T` or blanks between them. -/
def DateTime.ofFree? (s : String) : Option DateTime :=
  (whole? (freeDateTime (literal 'T')) s).or (whole? (freeDateTime blanks) s)

end TableGateway
