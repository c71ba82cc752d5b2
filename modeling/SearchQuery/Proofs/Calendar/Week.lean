import Mathlib.Algebra.BigOperators.Intervals
import Mathlib.Algebra.Order.BigOperators.Group.Finset
import SearchQuery.Calendar.Date

/-!
# Days, years and weeks

The days of the calendar are numbered from the first of January of year 1 on.  A day of the year is found again from
the days before its month; and a week belongs to the year in which its Thursday lies.  The day that is given by a
week and a weekday is exactly the day that falls on them.
-/

set_option autoImplicit false

namespace SearchQuery

namespace Calendar

/-! ## Lengths of months and years -/

theorem isLeap_iff {year : Nat} : isLeap year = true ↔ 4 ∣ year ∧ (100 ∣ year → 400 ∣ year) := by
  simp only [isLeap, Bool.and_eq_true, Bool.or_eq_true, beq_iff_eq, bne_iff_ne, Nat.dvd_iff_mod_eq_zero]
  tauto

theorem daysBeforeYear_succ {year : Nat} (positive : 1 ≤ year) :
    daysBeforeYear (year + 1) = daysBeforeYear year + daysInYear year := by
  obtain ⟨past, rfl⟩ := Nat.exists_eq_add_of_le' positive
  have fewer : past / 100 ≤ past / 4 := Nat.div_le_div_left (by decide) (by decide)
  have ofHundredth : 100 ∣ past + 1 → 4 ∣ past + 1 := dvd_trans (by decide)
  have ofCycle : 400 ∣ past + 1 → 100 ∣ past + 1 := dvd_trans (by decide)
  simp only [daysBeforeYear, Nat.add_sub_cancel, Nat.succ_div, daysInYear, isLeap_iff]
  by_cases four : 4 ∣ past + 1
  · by_cases hundred : 100 ∣ past + 1
    · by_cases cycle : 400 ∣ past + 1
      · simp only [four, hundred, cycle, implies_true, and_self, if_true]
        omega
      · simp only [four, hundred, cycle, imp_false, not_true, and_false, if_true, if_false]
        omega
    · simp only [four, hundred, mt ofCycle hundred, false_imp_iff, and_self, if_true, if_false]
      omega
  · have hundred := mt ofHundredth four
    simp only [four, hundred, mt ofCycle hundred, false_and, if_false]
    omega

theorem daysBeforeYear_mono : Monotone daysBeforeYear := by
  apply monotone_nat_of_le_succ
  intro year
  cases year with
  | zero => decide
  | succ year =>
    rw [daysBeforeYear_succ (Nat.le_add_left 1 year)]
    exact Nat.le_add_right _ _

theorem daysInYear_eq (year : Nat) : daysInYear year = 365 ∨ daysInYear year = 366 := by
  rw [daysInYear]
  split
  · exact .inr rfl
  · exact .inl rfl

/-- How many days of the year lie before a month. -/
def daysBeforeMonth (year month : Nat) : Nat :=
  ∑ earlier ∈ Finset.Ico 1 month, daysInMonth year earlier

theorem daysBeforeMonth_succ {month : Nat} (positive : 1 ≤ month) (year : Nat) :
    daysBeforeMonth year (month + 1) = daysBeforeMonth year month + daysInMonth year month :=
  Finset.sum_Ico_succ_top positive _

theorem daysBeforeMonth_mono (year : Nat) : Monotone (daysBeforeMonth year) := by
  intro month later ordered
  exact Finset.sum_le_sum_of_subset (Finset.Ico_subset_Ico_right ordered)

theorem daysBeforeMonth_thirteen (year : Nat) : daysBeforeMonth year 13 = daysInYear year := by
  have months : Finset.Ico 1 13 = {1, 2, 3, 4, 5, 6, 7, 8, 9, 10, 11, 12} := by decide
  rw [daysBeforeMonth, months, daysInYear]
  cases leap : isLeap year with
  | false => simp [daysInMonth, leap]
  | true => simp [daysInMonth, leap]

/-- Every day before the end of a month lies in that month or in an earlier one. -/
theorem exists_monthDay {year month day : Nat} (positive : 1 ≤ day) (before : day ≤ daysBeforeMonth year (month + 1)) :
    ∃ earlier dayOfMonth, 1 ≤ earlier ∧ earlier ≤ month ∧ 1 ≤ dayOfMonth ∧ dayOfMonth ≤ daysInMonth year earlier ∧
      day = daysBeforeMonth year earlier + dayOfMonth := by
  induction month with
  | zero =>
    have none : daysBeforeMonth year (0 + 1) = 0 := rfl
    omega
  | succ month ih =>
    by_cases earlier : day ≤ daysBeforeMonth year (month + 1)
    · obtain ⟨found, dayOfMonth, first, last, rest⟩ := ih earlier
      exact ⟨found, dayOfMonth, first, Nat.le_succ_of_le last, rest⟩
    · rw [daysBeforeMonth_succ (Nat.le_add_left 1 month)] at before
      exact ⟨month + 1, day - daysBeforeMonth year (month + 1), by omega, le_rfl, by omega, by omega, by omega⟩

end Calendar

namespace Date

open SearchQuery.Calendar

/-! ## Days of the year -/

def yearDay (d : Date) : Nat :=
  daysBeforeMonth d.year d.month + d.day

/-- The number of a day, where the first of January of year 1 has number 1. -/
def number (d : Date) : Nat :=
  daysBeforeYear d.year + d.yearDay

theorem one_le_yearDay (d : Date) : 1 ≤ d.yearDay :=
  Nat.le_add_left_of_le d.real.2.2.2.2.1

theorem yearDay_le (d : Date) : d.yearDay ≤ daysInYear d.year := by
  obtain ⟨-, -, firstMonth, lastMonth, -, inMonth⟩ := d.real
  calc d.yearDay
      ≤ daysBeforeMonth d.year d.month + daysInMonth d.year d.month := Nat.add_le_add_left inMonth _
    _ = daysBeforeMonth d.year (d.month + 1) := (daysBeforeMonth_succ firstMonth d.year).symm
    _ ≤ daysBeforeMonth d.year 13 := daysBeforeMonth_mono d.year (Nat.succ_le_succ lastMonth)
    _ = daysInYear d.year := daysBeforeMonth_thirteen d.year

theorem make?_eq_some_iff {year month day : Nat} {d : Date} :
    make? year month day = some d ↔ d.year = year ∧ d.month = month ∧ d.day = day := by
  rw [make?]
  constructor
  · intro made
    split at made
    next => cases made; exact ⟨rfl, rfl, rfl⟩
    next => cases made
  · rintro ⟨rfl, rfl, rfl⟩
    rw [dif_pos d.real]

/-- Months are counted off until the day lies in one of them. -/
theorem splitYearDay_eq {year months first month day : Nat} (fromFirst : first ≤ month)
    (inReach : month ≤ first + months) (positive : 1 ≤ day) (inMonth : day ≤ daysInMonth year month) :
    splitYearDay year months first (∑ earlier ∈ Finset.Ico first month, daysInMonth year earlier + day) =
      (month, day) := by
  induction months generalizing first with
  | zero =>
    obtain rfl : first = month := Nat.le_antisymm fromFirst inReach
    simp [splitYearDay]
  | succ months ih =>
    rcases Nat.eq_or_lt_of_le fromFirst with rfl | later
    · simp [splitYearDay, inMonth]
    · rw [Finset.sum_eq_sum_Ico_succ_bot later, splitYearDay, if_neg (by omega), Nat.add_assoc,
        Nat.add_sub_cancel_left]
      exact ih later (by omega)

/-- The day at a place in the year. -/
def inYear? (year day : Nat) : Option Date :=
  make? year (splitYearDay year 11 1 day).1 (splitYearDay year 11 1 day).2

theorem inYear?_eq_some_iff {year day : Nat} {d : Date} (positive : 1 ≤ day) (inYear : day ≤ daysInYear year) :
    inYear? year day = some d ↔ d.year = year ∧ d.yearDay = day := by
  constructor
  · intro found
    rw [← daysBeforeMonth_thirteen] at inYear
    obtain ⟨month, dayOfMonth, first, last, firstDay, lastDay, rfl⟩ := exists_monthDay positive inYear
    rw [inYear?, daysBeforeMonth, splitYearDay_eq first (by omega) firstDay lastDay, make?_eq_some_iff] at found
    obtain ⟨rfl, rfl, rfl⟩ := found
    exact ⟨rfl, rfl⟩
  · rintro ⟨rfl, rfl⟩
    obtain ⟨-, -, first, last, firstDay, lastDay⟩ := d.real
    rw [inYear?, yearDay, daysBeforeMonth, splitYearDay_eq first (by omega) firstDay lastDay, make?_eq_some_iff]
    exact ⟨rfl, rfl, rfl⟩

theorem ofYearDay?_eq (year : Nat) (day : Int) :
    ofYearDay? year day =
      if day < 1 then inYear? (year - 1) (day + (daysInYear (year - 1) : Int)).toNat
      else if (daysInYear year : Int) < day then inYear? (year + 1) (day - (daysInYear year : Int)).toNat
      else inYear? year day.toNat :=
  rfl

/-- The years before and after a day are told by its number. -/
theorem year_eq_iff (d : Date) {year : Nat} (positive : 1 ≤ year) :
    d.year = year ↔ daysBeforeYear year < d.number ∧ d.number ≤ daysBeforeYear (year + 1) := by
  have first := d.one_le_yearDay
  have last := d.yearDay_le
  rw [number]
  constructor
  · rintro rfl
    rw [daysBeforeYear_succ positive]
    omega
  · rintro ⟨after, before⟩
    rcases Nat.lt_trichotomy d.year year with earlier | same | later
    · have ends := daysBeforeYear_mono (Nat.succ_le_of_lt earlier)
      rw [Nat.succ_eq_add_one, daysBeforeYear_succ d.real.1] at ends
      omega
    · exact same
    · have begins := daysBeforeYear_mono (Nat.succ_le_of_lt later)
      rw [Nat.succ_eq_add_one] at begins
      omega

theorem inYear?_eq_some_iff_number {year day : Nat} {d : Date} (positiveYear : 1 ≤ year) (positive : 1 ≤ day)
    (inYear : day ≤ daysInYear year) : inYear? year day = some d ↔ d.number = daysBeforeYear year + day := by
  rw [inYear?_eq_some_iff positive inYear]
  constructor
  · rintro ⟨rfl, rfl⟩
    rfl
  · intro numbered
    have sameYear : d.year = year := by
      rw [year_eq_iff d positiveYear, daysBeforeYear_succ positiveYear]
      omega
    rw [number, sameYear] at numbered
    exact ⟨sameYear, by omega⟩

/-- A day near a year is found by its distance from the last day of the year before. -/
theorem ofYearDay?_eq_some_iff {year : Nat} {day : Int} {d : Date} (positive : 1 ≤ year) (notFarBefore : -364 ≤ day)
    (notFarBehind : day ≤ daysInYear year + 365) :
    ofYearDay? year day = some d ↔ (d.number : Int) = daysBeforeYear year + day := by
  rw [ofYearDay?_eq]
  split
  next before =>
    have length := daysInYear_eq (year - 1)
    rcases Nat.eq_or_lt_of_le positive with rfl | later
    · -- there is no year before the first one, and no day has a number below 1
      have first := d.one_le_yearDay
      have none : daysBeforeYear 1 = 0 := rfl
      rw [inYear?_eq_some_iff (by omega) (by omega), none, number]
      constructor
      · rintro ⟨noYear, -⟩
        exact absurd d.real.1 (by omega)
      · intro numbered
        omega
    · have next : daysBeforeYear (year - 1 + 1) = _ := daysBeforeYear_succ (by omega)
      rw [Nat.sub_add_cancel positive] at next
      rw [inYear?_eq_some_iff_number (by omega) (by omega) (by omega)]
      omega
  next =>
    split
    next behind =>
      have length := daysInYear_eq (year + 1)
      have next := daysBeforeYear_succ positive
      rw [inYear?_eq_some_iff_number (by omega) (by omega) (by omega)]
      omega
    next within =>
      rw [inYear?_eq_some_iff_number positive (by omega) (by omega)]
      omega

/-! ## Weeks -/

/-- The number of the Thursday of the week in which a day lies. -/
def thursday (d : Date) : Nat :=
  d.number - (d.number - 1) % 7 + 3

/-- A day lies in a week of a year if the Thursday of its week lies in that year, and weeks are counted by their
Thursdays; the first day of all was a Monday. -/
structure FallsOn (d : Date) (year week weekday : Nat) : Prop where
  weekday : weekday = (d.number - 1) % 7 + 1
  begun : daysBeforeYear year < d.thursday
  unended : d.thursday ≤ daysBeforeYear (year + 1)
  week : week = (d.thursday - daysBeforeYear year - 1) / 7 + 1

theorem one_le_number (d : Date) : 1 ≤ d.number :=
  Nat.le_add_left_of_le d.one_le_yearDay

theorem number_le (d : Date) : d.number ≤ daysBeforeYear 10000 := by
  have before := ((year_eq_iff d d.real.1).1 rfl).2
  exact before.trans (daysBeforeYear_mono (Nat.succ_le_succ d.real.2.1))

theorem FallsOn.positive {d : Date} {year week weekday : Nat} (falls : d.FallsOn year week weekday) : 1 ≤ year := by
  by_contra isZero
  obtain rfl : year = 0 := by omega
  have begun := falls.begun
  have unended := falls.unended
  have none : daysBeforeYear 0 = 0 ∧ daysBeforeYear (0 + 1) = 0 := ⟨rfl, rfl⟩
  omega

/-- The calendar ends with a Friday, so that the Thursday of its last week still lies in it. -/
theorem FallsOn.year_le {d : Date} {year week weekday : Nat} (falls : d.FallsOn year week weekday) : year ≤ 9999 := by
  by_contra tooLate
  have begun := falls.begun
  have ends := daysBeforeYear_mono (Nat.succ_le_of_lt (Nat.lt_of_not_le tooLate))
  have last : daysBeforeYear (Nat.succ 9999) = 3652059 := by decide
  have isLast := d.number_le
  have first := d.one_le_number
  rw [last] at ends
  rw [show daysBeforeYear 10000 = 3652059 from last] at isLast
  rw [thursday] at begun
  omega

/-- How many weeks lie before the first week of a year. -/
def weeksBeforeYear (year : Nat) : Nat :=
  (daysBeforeYear year + 3) / 7

theorem firstMonday_eq (year : Nat) :
    (daysBeforeYear year : Int) + firstMonday year = 7 * weeksBeforeYear year + 1 := by
  have begins : firstWeekday year = daysBeforeYear year % 7 := rfl
  simp only [firstMonday, weeksBeforeYear]
  split <;> omega

/-- A year has the weeks whose Thursdays lie in it. -/
theorem le_weeksInYear_iff {year week : Nat} :
    week + 1 ≤ weeksInYear year ↔
      7 * (weeksBeforeYear year + week) + 4 ≤ daysBeforeYear year + daysInYear year := by
  rw [weeksInYear, firstWeekday, weeksBeforeYear, daysInYear]
  cases isLeap year with
  | false =>
    simp only [and_false, or_false, Bool.false_eq_true, if_false]
    split <;> omega
  | true =>
    simp only [and_true, if_true]
    split <;> omega

theorem ofWeek?_eq_some_iff {year week weekday : Nat} {d : Date} :
    ofWeek? year week weekday = some d ↔ d.FallsOn year week weekday := by
  have first := d.one_le_number
  have length := daysInYear_eq year
  have monday := firstMonday_eq year
  rw [ofWeek?]
  constructor
  · intro found
    split at found
    next given =>
      obtain ⟨positive, -, firstWeek, lastWeek, firstDay, lastDay⟩ := given
      obtain ⟨past, rfl⟩ := Nat.exists_eq_add_of_le' firstWeek
      rw [le_weeksInYear_iff] at lastWeek
      rw [weeksBeforeYear] at *
      rw [ofYearDay?_eq_some_iff positive (by omega) (by omega)] at found
      have numbered : d.number = 7 * ((daysBeforeYear year + 3) / 7 + past) + weekday := by omega
      have isThursday : d.thursday = 7 * ((daysBeforeYear year + 3) / 7 + past) + 4 := by
        rw [thursday]
        omega
      refine ⟨by omega, by omega, ?_, by omega⟩
      rw [daysBeforeYear_succ positive]
      omega
    next => cases found
  · intro falls
    have positive := falls.positive
    have isWeekday := falls.weekday
    obtain ⟨past, rfl⟩ : ∃ past, week = past + 1 := ⟨_, falls.week⟩
    have isWeek := falls.week
    have begun := falls.begun
    have unended := falls.unended
    rw [daysBeforeYear_succ positive] at unended
    have isThursday : d.thursday = 7 * (weeksBeforeYear year + past) + 4 := by
      rw [weeksBeforeYear]
      rw [thursday] at *
      omega
    have numbered : d.number = 7 * (weeksBeforeYear year + past) + weekday := by
      rw [thursday] at isThursday
      omega
    have lastWeek : past + 1 ≤ weeksInYear year := by
      rw [le_weeksInYear_iff]
      omega
    rw [if_pos ⟨positive, falls.year_le, by omega, lastWeek, by omega, by omega⟩]
    rw [weeksBeforeYear] at *
    rw [ofYearDay?_eq_some_iff positive (by omega) (by omega)]
    omega

-- the first days of 2021 lie in the last week of 2020
example : ofWeek? 2020 53 5 = make? 2021 1 1 := by
  decide

end Date

end SearchQuery
