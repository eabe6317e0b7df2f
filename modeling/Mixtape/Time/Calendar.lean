/-!
# The calendar

Days of the Gregorian calendar, extended backwards, numbered from 1 for the first of January of
year 1 up to the last day of year 9999.

* `isLeap`, `daysInMonth` — the lengths of years and months.
* `CivilDate`, `CivilDate.ofParts?` — a day by year, month and day.
* `CivilDate.dayNumber`, `civilDate` — the number of a day and the day of a number.
* `isWeekOf`, `weekDayNumber` — days by year, week and weekday.
-/

namespace Mixtape.Time

/-- Whether a year has 366 days. -/
def isLeap (year : Nat) : Bool := year % 4 == 0 && (year % 100 != 0 || year % 400 == 0)

/-- The lengths of the twelve months. -/
def monthLengths (leap : Bool) : List Nat :=
  [31, if leap then 29 else 28, 31, 30, 31, 30, 31, 31, 30, 31, 30, 31]

/-- The number of days of a month, counted from 1; zero for a month that does not exist. -/
def daysInMonth (year month : Nat) : Nat :=
  match month with
  | 0 => 0
  | m + 1 => (monthLengths (isLeap year)).getD m 0

/-- The first year of the calendar. -/
def firstYear : Nat := 1

/-- The last year of the calendar. -/
def lastYear : Nat := 9999

/-- The number of days before a year; the year is at least 1. -/
def daysBeforeYear (year : Nat) : Nat :=
  let y := year - 1
  y * 365 + y / 4 - y / 100 + y / 400

/-- The number of the last day of the calendar. -/
def lastDay : Nat := 3652059

/-- A day by year, month and day of the month. -/
structure CivilDate where
  /-- The year. -/
  year : Nat
  /-- The month, from 1. -/
  month : Nat
  /-- The day of the month, from 1. -/
  day : Nat
  deriving DecidableEq

namespace CivilDate

/-- Whether the parts name a day of the calendar. -/
def IsValid (d : CivilDate) : Prop :=
  firstYear ≤ d.year ∧ d.year ≤ lastYear ∧ 1 ≤ d.month ∧ d.month ≤ 12 ∧
    1 ≤ d.day ∧ d.day ≤ daysInMonth d.year d.month

instance (d : CivilDate) : Decidable d.IsValid := by unfold IsValid; infer_instance

/-- The day with the given parts, if there is one. -/
def ofParts? (year month day : Nat) : Option CivilDate :=
  let d : CivilDate := ⟨year, month, day⟩
  if d.IsValid then some d else none

/-- The number of a day. -/
def dayNumber (d : CivilDate) : Nat :=
  daysBeforeYear d.year + ((monthLengths (isLeap d.year)).take (d.month - 1)).foldr (· + ·) d.day

end CivilDate

/-- Month and day of the `n`-th day of a year, counted from zero, over the lengths of the months
from the given one on. -/
def monthAndDay (month n : Nat) : List Nat → Nat × Nat
  | [] => (month, n + 1)
  | length :: rest => if n < length then (month, n + 1) else monthAndDay (month + 1) (n - length) rest

/-- The day with a given number. -/
def civilDate (number : Nat) : CivilDate :=
  let n := number - 1
  let (c400, n) := (n / 146097, n % 146097)
  let (c100, n) := (min (n / 36524) 3, n - min (n / 36524) 3 * 36524)
  let (c4, n) := (n / 1461, n % 1461)
  let (c1, n) := (min (n / 365) 3, n - min (n / 365) 3 * 365)
  let year := c400 * 400 + c100 * 100 + c4 * 4 + c1 + 1
  let (month, day) := monthAndDay 1 n (monthLengths (isLeap year))
  ⟨year, month, day⟩

example : civilDate 738945 = ⟨2024, 2, 29⟩ := by decide
example : (CivilDate.mk 9999 12 31).dayNumber = lastDay := by decide
example : civilDate lastDay = ⟨9999, 12, 31⟩ := by decide

/-! ### Weeks -/

/-- The weekday of a day, zero for Monday. -/
def weekday (number : Nat) : Nat := (number + 6) % 7

/-- The number of the Monday of the first week of a year: the week that holds its first
Thursday. -/
def firstMonday (year : Nat) : Nat :=
  let first := daysBeforeYear year + 1
  let monday := first - weekday first
  if weekday first ≤ 3 then monday else monday + 7

/-- Whether a year has a 53rd week. -/
def hasLongWeekYear (year : Nat) : Bool :=
  let first := weekday (daysBeforeYear year + 1)
  first == 3 || (first == 2 && isLeap year)

/-- Whether a year has a week of a number; years have 52 weeks or 53. -/
def isWeekOf (year week : Nat) : Bool :=
  (decide (1 ≤ week) && decide (week ≤ 52)) ||
    (week == 53 && decide (firstYear ≤ year) && hasLongWeekYear year)

/-- The number of the day with the given year, week and weekday, 1 for Monday. -/
def weekDayNumber (year week day : Nat) : Nat := firstMonday year + (week - 1) * 7 + day - 1

example : civilDate (weekDayNumber 2020 53 5) = ⟨2021, 1, 1⟩ := by decide

end Mixtape.Time
