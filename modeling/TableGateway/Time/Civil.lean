/-! # Civil dates and times

Dates of the Gregorian calendar, extended to all years, and times of day with nanoseconds.
-/

namespace TableGateway

/-! ## Dates -/

/-- Years divisible by four, save the centuries that are not divisible by four hundred. -/
def isLeapYear (year : Int) : Bool :=
  year % 4 = 0 && (year % 100 ≠ 0 || year % 400 = 0)

/-- The days of a month, or none for a number that is no month. -/
def daysInMonth (year : Int) (month : Nat) : Nat :=
  match month with
  | 1 | 3 | 5 | 7 | 8 | 10 | 12 => 31
  | 4 | 6 | 9 | 11 => 30
  | 2 => if isLeapYear year then 29 else 28
  | _ => 0

/-- The years that a date may lie in. -/
def minYear : Int := -262143
def maxYear : Int := 262142

/-- A day of the calendar. -/
structure Date where
  year : Int
  month : Nat
  day : Nat
  year_bounds : minYear ≤ year ∧ year ≤ maxYear
  day_bounds : 1 ≤ day ∧ day ≤ daysInMonth year month
deriving DecidableEq

namespace Date

/-- The date with these numbers, if there is one. -/
def ofParts? (year : Int) (month day : Nat) : Option Date :=
  if hy : minYear ≤ year ∧ year ≤ maxYear then
    if hd : 1 ≤ day ∧ day ≤ daysInMonth year month then some ⟨year, month, day, hy, hd⟩ else none
  else none

/-- The day after. -/
def next? (d : Date) : Option Date :=
  (ofParts? d.year d.month (d.day + 1)).or <|
    (ofParts? d.year (d.month + 1) 1).or (ofParts? (d.year + 1) 1 1)

/-- The day before. -/
def previous? (d : Date) : Option Date :=
  if 1 < d.day then ofParts? d.year d.month (d.day - 1)
  else if 1 < d.month then ofParts? d.year (d.month - 1) (daysInMonth d.year (d.month - 1))
  else ofParts? (d.year - 1) 12 31

/-- The days since the first of March of the year 0. Years are taken to start in March, so that
the leap day is their last. -/
def dayNumber (d : Date) : Int :=
  let year := if d.month ≤ 2 then d.year - 1 else d.year
  let month : Int := if d.month ≤ 2 then d.month + 9 else d.month - 3
  365 * year + year / 4 - year / 100 + year / 400 + (153 * month + 2) / 5 + d.day - 1

/-- The day number of the first of January 2000. -/
def epochDayNumber : Int := 730425

/-- The days since the first of January 2000. -/
def daysSince2000 (d : Date) : Int :=
  d.dayNumber - epochDayNumber

end Date

/-! ## Times of day -/

/-- A time of day. In a leap second the nanoseconds go on counting beyond a second. -/
structure TimeOfDay where
  hour : Nat
  minute : Nat
  second : Nat
  nanosecond : Nat
deriving DecidableEq

namespace TimeOfDay

def midnight : TimeOfDay := ⟨0, 0, 0, 0⟩

/-- The time with these numbers, if there is one. Second sixty is a leap second. -/
def ofParts? (hour minute second nanosecond : Nat) : Option TimeOfDay :=
  if hour < 24 ∧ minute < 60 ∧ nanosecond < 1000000000 then
    if second < 60 then some ⟨hour, minute, second, nanosecond⟩
    else if second = 60 then some ⟨hour, minute, 59, nanosecond + 1000000000⟩
    else none
  else none

/-- The whole seconds since midnight. -/
def seconds (t : TimeOfDay) : Nat :=
  t.hour * 3600 + t.minute * 60 + t.second

/-- The time so many seconds after midnight, with the given nanoseconds. -/
def ofSeconds (seconds nanosecond : Nat) : TimeOfDay :=
  ⟨seconds / 3600, seconds / 60 % 60, seconds % 60, nanosecond⟩

/-- The second as it is written, sixty for a leap second. -/
def writtenSecond (t : TimeOfDay) : Nat :=
  if t.nanosecond < 1000000000 then t.second else t.second + 1

/-- The nanoseconds within the written second. -/
def writtenNanosecond (t : TimeOfDay) : Nat :=
  t.nanosecond % 1000000000

end TimeOfDay

/-! ## Dates with a time -/

/-- A date with a time of day. -/
structure DateTime where
  date : Date
  time : TimeOfDay
deriving DecidableEq

namespace DateTime

/-- The universal time of a local time, given the seconds that the local clock is ahead, less than
a day either way. There is none outside the calendar. -/
def toUniversal? (local_ : DateTime) (ahead : Int) : Option DateTime :=
  let seconds : Int := local_.time.seconds - ahead
  let time := TimeOfDay.ofSeconds (seconds % 86400).toNat local_.time.nanosecond
  let date :=
    if seconds < 0 then local_.date.previous?
    else if 86400 ≤ seconds then local_.date.next?
    else some local_.date
  date.map fun date => ⟨date, time⟩

/-- The microseconds since the start of the year 2000, cut towards zero. -/
def microsecondsSince2000 (t : DateTime) : Int :=
  ((t.date.daysSince2000 * 86400 + t.time.seconds) * 1000000000 + t.time.nanosecond).tdiv 1000

end DateTime

end TableGateway
