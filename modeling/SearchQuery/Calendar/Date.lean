import SearchQuery.Text.Digit

/-!
# Calendar dates

Days of the Gregorian calendar in the years 1 to 9999, and their order.  A day may be given by year,
month and day of the month, by the day of the year, or by the week and the day of the week.
-/

set_option autoImplicit false

namespace SearchQuery

namespace Calendar

def isLeap (year : Nat) : Bool :=
  year % 4 == 0 && (year % 100 != 0 || year % 400 == 0)

def daysInYear (year : Nat) : Nat :=
  if isLeap year then 366 else 365

def daysInMonth (year month : Nat) : Nat :=
  if month = 2 then (if isLeap year then 29 else 28)
  else if month = 4 ∨ month = 6 ∨ month = 9 ∨ month = 11 then 30
  else 31

/-- How many days lie between the first of January of year 1 and that of `year`. -/
def daysBeforeYear (year : Nat) : Nat :=
  let past := year - 1
  past * 365 + past / 4 - past / 100 + past / 400

/-- The weekday of the first of January, from Monday as 0 to Sunday as 6.  Year 1 began on a Monday. -/
def firstWeekday (year : Nat) : Nat :=
  daysBeforeYear year % 7

/-- A year has 53 weeks when it begins on a Thursday, or on a Wednesday if it is a leap year. -/
def weeksInYear (year : Nat) : Nat :=
  if firstWeekday year = 3 ∨ (firstWeekday year = 2 ∧ isLeap year) then 53 else 52

/-- The day of the year on which week 1 begins: the Monday of the week with the fourth of January,
which may lie in the year before. -/
def firstMonday (year : Nat) : Int :=
  let weekday := firstWeekday year
  if weekday ≤ 3 then 1 - (weekday : Int) else 8 - (weekday : Int)

def IsDay (year month day : Nat) : Prop :=
  1 ≤ year ∧ year ≤ 9999 ∧ 1 ≤ month ∧ month ≤ 12 ∧ 1 ≤ day ∧ day ≤ daysInMonth year month

instance (year month day : Nat) : Decidable (IsDay year month day) := by
  unfold IsDay
  infer_instance

end Calendar

structure Date where
  year : Nat
  month : Nat
  day : Nat
  real : Calendar.IsDay year month day
deriving DecidableEq

namespace Date

open SearchQuery.Calendar

def make? (year month day : Nat) : Option Date :=
  if real : IsDay year month day then some ⟨year, month, day, real⟩ else none

/-- Month and day of the month, counting the months from `month` on. -/
def splitYearDay (year : Nat) : (months month day : Nat) → Nat × Nat
  | 0, month, day => (month, day)
  | months + 1, month, day =>
    if day ≤ daysInMonth year month then (month, day)
    else splitYearDay year months (month + 1) (day - daysInMonth year month)

/-- The day at a distance from the last day of the year before; it may lie in a neighbouring year. -/
def ofYearDay? (year : Nat) (day : Int) : Option Date :=
  let within (year : Nat) (day : Nat) : Option Date :=
    let (month, day) := splitYearDay year 11 1 day
    make? year month day
  if day < 1 then within (year - 1) (day + (daysInYear (year - 1) : Int)).toNat
  else if (daysInYear year : Int) < day then within (year + 1) (day - (daysInYear year : Int)).toNat
  else within year day.toNat

/-- The day of a week, counting weeks and weekdays from 1. -/
def ofWeek? (year week weekday : Nat) : Option Date :=
  if 1 ≤ year ∧ year ≤ 9999 ∧ 1 ≤ week ∧ week ≤ weeksInYear year ∧ 1 ≤ weekday ∧ weekday ≤ 7 then
    ofYearDay? year (firstMonday year + 7 * ((week : Int) - 1) + ((weekday : Int) - 1))
  else none

/-- Whether a date comes before another. -/
def less (a b : Date) : Bool :=
  a.year < b.year || (a.year == b.year &&
    (a.month < b.month || (a.month == b.month && a.day < b.day)))

end Date

end SearchQuery
