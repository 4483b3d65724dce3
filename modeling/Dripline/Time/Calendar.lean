/-!
# The calendar

Days counted from the first of January of year 1, which is day 0, in the calendar of today carried
back without a gap:

* `daysBeforeYear`, `daysBeforeMonth`: where a year and a month begin;
* `ofDays`: the date of a day number, by cycles of 400, 100, 4 and 1 years;
* `Date.days`: the day number of a date.
-/

namespace Dripline.Calendar

/-- A leap year has a 29th of February. -/
def isLeap (year : Nat) : Bool := year % 4 == 0 && (year % 100 != 0 || year % 400 == 0)

/-- The lengths of the months of a year. -/
def monthLengths (leap : Bool) : List Nat :=
  [31, if leap then 29 else 28, 31, 30, 31, 30, 31, 31, 30, 31, 30, 31]

/-- The length of a month, counted from 1; 0 for a month that does not exist. -/
def daysInMonth (year month : Nat) : Nat :=
  match month with
  | 0 => 0
  | m + 1 => ((monthLengths (isLeap year))[m]?).getD 0

/-- The number of days before the first of January of a year from 1 on. -/
def daysBeforeYear (year : Nat) : Nat :=
  let y := year - 1
  y * 365 + y / 4 - y / 100 + y / 400

/-- The number of days of a year before a month. -/
def daysBeforeMonth (year month : Nat) : Nat :=
  ((monthLengths (isLeap year)).take (month - 1)).foldl (· + ·) 0

/-- A date: year, month from 1, day from 1. -/
structure Date where
  year : Nat
  month : Nat
  day : Nat
deriving DecidableEq, Repr, Inhabited

/-- The number of days from the first day of year 1 to a date. -/
def Date.days (d : Date) : Nat :=
  daysBeforeYear d.year + daysBeforeMonth d.year d.month + (d.day - 1)

/-- The month, counted from the given one, and the day, counted from 1, of a day of the year. -/
def monthDay (month : Nat) (dayOfYear : Nat) : List Nat → Nat × Nat
  | [] => (month, dayOfYear + 1)
  | len :: rest =>
    if dayOfYear < len || rest.isEmpty then (month, dayOfYear + 1)
    else monthDay (month + 1) (dayOfYear - len) rest

/-- The date of a day number. The last day of a cycle of 400 or of 4 years would fall into a
    fifth part of its cycle, and belongs to the fourth. -/
def ofDays (n : Nat) : Date :=
  let n400 := n / 146097
  let r400 := n % 146097
  let n100 := min (r400 / 36524) 3
  let r100 := r400 - n100 * 36524
  let n4 := r100 / 1461
  let r4 := r100 % 1461
  let n1 := min (r4 / 365) 3
  let dayOfYear := r4 - n1 * 365
  let year := n400 * 400 + n100 * 100 + n4 * 4 + n1 + 1
  let (month, day) := monthDay 1 dayOfYear (monthLengths (isLeap year))
  ⟨year, month, day⟩

/-- The last year of the calendar. -/
def lastYear : Nat := 9999

/-- The number of days of the calendar. -/
def totalDays : Nat := daysBeforeYear (lastYear + 1)

end Dripline.Calendar
