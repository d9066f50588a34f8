/-!
Dates and times of day in the proleptic Gregorian calendar, and their ISO 8601 text.

A `Date` is a year from -262143 to 262142 with a month and a day that exists in it. A `DateTime`
adds hour, minute, second and nanoseconds; second 60 is a leap second. Their text is
`YYYY-MM-DD` (a year outside 0 to 9999 takes a sign and at least four digits) and
`YYYY-MM-DDTHH:MM:SS`, followed, when the nanoseconds are not zero, by a point and the fewest of
3, 6 or 9 digits that show them exactly.
-/

namespace ContactMigration.Calendar

/-- A calendar date. -/
structure Date where
  year : Int
  month : Nat
  day : Nat
  deriving DecidableEq, Repr, Inhabited

/-- A date with a time of day. -/
structure DateTime where
  date : Date
  hour : Nat
  minute : Nat
  /-- The second, 60 for a leap second. -/
  second : Nat
  /-- Nanoseconds within the second, below `10^9`. -/
  nano : Nat
  deriving DecidableEq, Repr, Inhabited

/-- The least year a date may have. -/
def minYear : Int := -262143

/-- The greatest year a date may have. -/
def maxYear : Int := 262142

/-- Whether a year has a 29th of February. -/
def isLeapYear (year : Int) : Bool :=
  year % 4 == 0 && (year % 100 != 0 || year % 400 == 0)

/-- The number of days of a month. -/
def daysInMonth (year : Int) (month : Nat) : Nat :=
  match month with
  | 2 => if isLeapYear year then 29 else 28
  | 4 | 6 | 9 | 11 => 30
  | _ => 31

/-- The date of a year, month and day, if it exists. -/
def Date.ofYmd? (year : Int) (month day : Nat) : Option Date :=
  if minYear ≤ year && year ≤ maxYear && 1 ≤ month && month ≤ 12 && 1 ≤ day &&
      day ≤ daysInMonth year month then
    some ⟨year, month, day⟩
  else none

/-- `n` written with at least `width` digits, zeros in front. -/
def padded (width n : Nat) : String :=
  let digits := toString n
  String.ofList (List.replicate (width - digits.length) '0') ++ digits

/-- The text of a year: four digits from 0 to 9999, else a sign and at least four digits. -/
def yearText (year : Int) : String :=
  if 0 ≤ year && year ≤ 9999 then padded 4 year.toNat
  else (if year < 0 then "-" else "+") ++ padded 4 year.natAbs

/-- The text of a date, `YYYY-MM-DD`. -/
def Date.text (d : Date) : String :=
  yearText d.year ++ "-" ++ padded 2 d.month ++ "-" ++ padded 2 d.day

/-- The fraction of a second: empty for zero, else a point and 3, 6 or 9 digits. -/
def fractionText (nano : Nat) : String :=
  if nano == 0 then ""
  else if nano % 1000000 == 0 then "." ++ padded 3 (nano / 1000000)
  else if nano % 1000 == 0 then "." ++ padded 6 (nano / 1000)
  else "." ++ padded 9 nano

/-- The text of a date and time, `YYYY-MM-DDTHH:MM:SS` and the fraction. -/
def DateTime.text (t : DateTime) : String :=
  t.date.text ++ "T" ++ padded 2 t.hour ++ ":" ++ padded 2 t.minute ++ ":" ++
    padded 2 t.second ++ fractionText t.nano

end ContactMigration.Calendar
