/-!
# The Gregorian calendar

Dates of the Gregorian calendar, extended to all years, and their numbering by days from 1 January
1970. A year is counted from March here, so that the leap day comes last in it; `startOfYear` gives
the number of days before such a year, and `Date.ofDayNumber` finds the year of a day between two
starts.
-/

namespace AttributeRelease.Time

/-- A date, whose month and day count from one. -/
structure Date where
  year : Int
  month : Nat
  day : Nat
  deriving DecidableEq, Repr

/-- Whether a year has a leap day. -/
def isLeapYear (year : Int) : Bool :=
  year % 4 == 0 && (year % 100 != 0 || year % 400 == 0)

/-- The number of days in a month. -/
def monthLength (year : Int) (month : Nat) : Nat :=
  if month = 2 then (if isLeapYear year then 29 else 28)
  else if month = 4 ∨ month = 6 ∨ month = 9 ∨ month = 11 then 30
  else 31

/-- Days from 1 March of the year 0 to 1 March of a year. -/
def startOfYear (year : Int) : Int :=
  365 * year + year / 4 - year / 100 + year / 400

/-- Days from 1 March of the year 0 to 1 January 1970. -/
def epochOffset : Int := 719468

/-- Days from 1 March to the first day of the month that comes `month` months after March. -/
def startOfMonth (month : Nat) : Nat := (153 * month + 2) / 5

namespace Date

/-- Whether the month exists and has the day. -/
def isValid (date : Date) : Bool :=
  1 ≤ date.month && date.month ≤ 12 && 1 ≤ date.day &&
    date.day ≤ monthLength date.year date.month

/-- Days from 1 January 1970 to a date. -/
def dayNumber (date : Date) : Int :=
  if 3 ≤ date.month then
    startOfYear date.year + startOfMonth (date.month - 3) + date.day - 1 - epochOffset
  else
    startOfYear (date.year - 1) + startOfMonth (date.month + 9) + date.day - 1 - epochOffset

/-- The year, counted from March, that holds a day counted from 1 March of the year 0. -/
def marchYear (day : Int) : Int :=
  let guess := day * 400 / 146097
  if startOfYear (guess + 1) ≤ day then guess + 1
  else if startOfYear guess ≤ day then guess
  else guess - 1

/-- The date that lies a number of days after 1 January 1970. -/
def ofDayNumber (number : Int) : Date :=
  let day := number + epochOffset
  let year := marchYear day
  let dayOfYear := (day - startOfYear year).toNat
  let month := (5 * dayOfYear + 2) / 153
  let dayOfMonth := dayOfYear - startOfMonth month + 1
  if month < 10 then ⟨year, month + 3, dayOfMonth⟩ else ⟨year + 1, month - 9, dayOfMonth⟩

end Date

end AttributeRelease.Time
