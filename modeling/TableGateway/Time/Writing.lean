import TableGateway.Number.Numeral
import TableGateway.Time.Civil

/-! # Writing dates and times -/

namespace TableGateway

/-- Four digits, or a sign and at least four digits outside the years 0 to 9999. -/
def yearChars (year : Int) : List Char :=
  if year < 0 then '-' :: Numeral.padded 4 year.natAbs
  else if 9999 < year then '+' :: Numeral.padded 4 year.natAbs
  else Numeral.padded 4 year.natAbs

/-- Year, month and day with hyphens between them. -/
def Date.chars (d : Date) : List Char :=
  yearChars d.year ++ '-' :: Numeral.padded 2 d.month ++ '-' :: Numeral.padded 2 d.day

def Date.text (d : Date) : String :=
  String.ofList d.chars

/-- Hour, minute and second with colons between them. -/
def TimeOfDay.chars (t : TimeOfDay) : List Char :=
  Numeral.padded 2 t.hour ++ ':' :: Numeral.padded 2 t.minute
    ++ ':' :: Numeral.padded 2 t.writtenSecond

/-- The fraction of the second in as few groups of three digits as hold it exactly. -/
def TimeOfDay.fractionChars (t : TimeOfDay) : List Char :=
  let n := t.writtenNanosecond
  if n = 0 then []
  else if n % 1000000 = 0 then '.' :: Numeral.padded 3 (n / 1000000)
  else if n % 1000 = 0 then '.' :: Numeral.padded 6 (n / 1000)
  else '.' :: Numeral.padded 9 n

/-- Date and time with a `T` between them and all nine digits of the fraction. -/
def DateTime.text (t : DateTime) : String :=
  String.ofList
    (t.date.chars ++ 'T' :: t.time.chars ++ '.' :: Numeral.padded 9 t.time.writtenNanosecond)

/-- A universal time in the Internet format, with the shortest exact fraction and a `Z`. -/
def DateTime.internetText (t : DateTime) : String :=
  String.ofList (t.date.chars ++ 'T' :: t.time.chars ++ t.time.fractionChars ++ ['Z'])

end TableGateway
