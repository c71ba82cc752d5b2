import SearchQuery.Calendar.Iso
import SearchQuery.Proofs.Calendar.Week
import SearchQuery.Proofs.Number.Literal

/-!
# Forms of dates

A date has six forms: by month and day, by week and weekday, or by a week alone, which means its Monday; and each of
them with dashes or without.  All six are read as the day that they name.  Besides them only full forms without
dashes are read that two further bytes follow.
-/

set_option autoImplicit false

namespace SearchQuery

open SearchQuery.Text

/-! ## Numbers of a fixed width -/

namespace Text

/-- The decimal digits of a number, filled up with zeros. -/
def padded (width n : Nat) : Text :=
  padStart '0' width (decimal n)

theorem asciiDigit?_eq_some_iff {c : Char} {d : Nat} :
    asciiDigit? c = some d ↔ d < 10 ∧ c = Nat.digitChar d := by
  constructor
  · intro known
    rw [asciiDigit?] at known
    split at known
    next within =>
      cases known
      refine ⟨by omega, ?_⟩
      have same : c = Char.ofNat (48 + (c.toNat - 0x30)) := by
        rw [Nat.add_sub_cancel' within.1, Char.ofNat_toNat]
      have small : c.toNat - 0x30 < 10 := by omega
      generalize c.toNat - 0x30 = d at same small
      rw [same]
      exact (by decide : ∀ d < 10, Char.ofNat (48 + d) = Nat.digitChar d) d small
    next => cases known
  · rintro ⟨small, rfl⟩
    exact (by decide : ∀ d < 10, asciiDigit? (Nat.digitChar d) = some d) d small

theorem padded_of_lt {n : Nat} (small : n < 10) (width : Nat) :
    padded (width + 1) n = List.replicate width '0' ++ [Nat.digitChar n] := by
  rw [padded, padStart, decimal, Nat.toDigits_of_lt_base small]
  rfl

theorem decimal_of_le {n : Nat} (large : 10 ≤ n) :
    decimal n = decimal (n / 10) ++ [Nat.digitChar (n % 10)] := by
  rw [decimal, Nat.toDigits_eq_if (by decide), if_neg (Nat.not_lt.2 large)]
  rfl

/-- The last digit of a number that is filled up is its last decimal digit. -/
theorem padded_succ (width n : Nat) :
    padded (width + 2) n = padded (width + 1) (n / 10) ++ [Nat.digitChar (n % 10)] := by
  by_cases small : n < 10
  · rw [padded_of_lt small, Nat.div_eq_of_lt small, padded_of_lt (by decide), Nat.mod_eq_of_lt small,
      List.replicate_succ']
    rfl
  · have gap : width + 2 - ((decimal (n / 10)).length + 1) = width + 1 - (decimal (n / 10)).length := by omega
    rw [padded, padStart, decimal_of_le (Nat.not_lt.1 small), List.length_append, List.length_singleton, gap,
      ← List.append_assoc]
    rfl

theorem length_padded {width n : Nat} (short : n < 10 ^ (width + 1)) : (padded (width + 1) n).length = width + 1 := by
  induction width generalizing n with
  | zero => simp [padded_of_lt short]
  | succ width ih =>
    rw [padded_succ, List.length_append, ih (by omega)]
    rfl

theorem isDigit_of_mem_padded {width n : Nat} {c : Char} (member : c ∈ padded width n) : c.isDigit = true := by
  rcases List.mem_append.1 member with filled | digit
  · rw [List.eq_of_mem_replicate filled]
    rfl
  · exact isDigit_of_mem_decimal digit

end Text

namespace Date

open SearchQuery.Calendar

theorem asciiNumber?_append {s : Text} {c : Char} {n : Nat} :
    asciiNumber? (s ++ [c]) = some n ↔
      ∃ m d, asciiNumber? s = some m ∧ asciiDigit? c = some d ∧ n = 10 * m + d := by
  rw [asciiNumber?, asciiNumber?, List.mapM_append, List.mapM_cons, List.mapM_nil]
  cases s.mapM asciiDigit? with
  | none => simp
  | some digits =>
    cases asciiDigit? c with
    | none => simp
    | some last => simp [ofDigits, eq_comm]

/-- What is read as a number of a fixed width is that number, filled up. -/
theorem asciiNumber?_eq_some_iff {s : Text} {n width : Nat} (length : s.length = width + 1) :
    asciiNumber? s = some n ↔ s = padded (width + 1) n := by
  induction s using List.reverseRecOn generalizing n width with
  | nil => cases length
  | append_singleton s c ih =>
    rw [List.length_append, List.length_singleton, Nat.add_right_cancel_iff] at length
    rw [asciiNumber?_append]
    simp only [asciiDigit?_eq_some_iff]
    cases width with
    | zero =>
      cases List.length_eq_zero_iff.1 length
      have nothing : asciiNumber? [] = some 0 := rfl
      rw [nothing]
      constructor
      · rintro ⟨_, d, ⟨⟩, ⟨small, rfl⟩, rfl⟩
        simpa using (padded_of_lt small 0).symm
      · intro spelled
        have single := congrArg List.length spelled
        have small : n < 10 := by
          by_contra large
          have longer : 0 < (decimal (n / 10)).length := List.length_pos_iff.2 Nat.toDigits_ne_nil
          rw [padded, padStart, decimal_of_le (Nat.not_lt.1 large)] at single
          simp only [List.length_append, List.length_singleton, List.length_nil, List.length_replicate] at single
          omega
        rw [padded_of_lt small] at spelled
        exact ⟨0, n, rfl, ⟨small, (List.cons.inj spelled).1⟩, by omega⟩
    | succ width =>
      simp only [ih length, padded_succ, List.append_singleton_inj]
      constructor
      · rintro ⟨m, d, rfl, ⟨small, rfl⟩, rfl⟩
        rw [Nat.mul_add_div (by decide), Nat.div_eq_of_lt small, Nat.mul_add_mod, Nat.mod_eq_of_lt small]
        exact ⟨rfl, rfl⟩
      · rintro ⟨rfl, rfl⟩
        exact ⟨n / 10, n % 10, rfl, ⟨Nat.mod_lt n (by decide), rfl⟩, (Nat.div_add_mod n 10).symm⟩

theorem asciiNumber?_padded {width n : Nat} (short : n < 10 ^ (width + 1)) :
    asciiNumber? (padded (width + 1) n) = some n :=
  (asciiNumber?_eq_some_iff (length_padded short)).2 rfl

/-! ## Forms -/

/-- What stands behind the year: a month and a day, a week and a weekday, or a week alone, with a dash between the
two or without. -/
inductive IsDayOf (year : Nat) (dash : Text) : Text → Date → Prop
  | monthDay {d : Date} (sameYear : d.year = year) :
      IsDayOf year dash (padded 2 d.month ++ (dash ++ padded 2 d.day)) d
  | weekday {d : Date} {week weekday : Nat} (falls : d.FallsOn year week weekday) :
      IsDayOf year dash ('W' :: (padded 2 week ++ (dash ++ padded 1 weekday))) d
  | monday {d : Date} {week : Nat} (falls : d.FallsOn year week 1) : IsDayOf year dash ('W' :: padded 2 week) d

/-- The forms of a date; the year has four digits and is followed by a dash if a dash is used at all. -/
def IsIso (text : Text) (d : Date) : Prop :=
  ∃ year dash rest, (dash = [] ∨ dash = ['-']) ∧ text = padded 4 year ++ (dash ++ rest) ∧ IsDayOf year dash rest d

/-- A full form without dashes and two bytes of other text. -/
def IsOverlong (text : Text) (d : Date) : Prop :=
  ∃ year rest tail, text = padded 4 year ++ (rest ++ tail) ∧ IsDayOf year [] rest d ∧ rest.length = 4 ∧
    (String.ofList tail).utf8ByteSize = 2

theorem FallsOn.bounds {d : Date} {year week weekday : Nat} (falls : d.FallsOn year week weekday) :
    week ≤ 53 ∧ weekday ≤ 7 := by
  have isWeekday := falls.weekday
  have isWeek := falls.week
  have unended := falls.unended
  rw [daysBeforeYear_succ falls.positive] at unended
  have length := daysInYear_eq year
  exact ⟨by omega, by omega⟩

/-! ## Reading -/

theorem readMonthDay?_eq_some_iff {year : Nat} {month day : Text} {d : Date} (monthLength : month.length = 2)
    (dayLength : day.length = 2) :
    readMonthDay? year month day = some d ↔ d.year = year ∧ month = padded 2 d.month ∧ day = padded 2 d.day := by
  simp only [readMonthDay?, Option.bind_eq_bind, Option.bind_eq_some_iff, make?_eq_some_iff,
    asciiNumber?_eq_some_iff monthLength, asciiNumber?_eq_some_iff dayLength]
  constructor
  · rintro ⟨_, spelledMonth, _, spelledDay, sameYear, rfl, rfl⟩
    exact ⟨sameYear, spelledMonth, spelledDay⟩
  · rintro ⟨sameYear, spelledMonth, spelledDay⟩
    exact ⟨d.month, spelledMonth, d.day, spelledDay, sameYear, rfl, rfl⟩

theorem readWeek?_eq_some_iff {year : Nat} {week weekday : Text} {d : Date} (weekLength : week.length = 2)
    (weekdayLength : weekday.length = 1) :
    readWeek? year week weekday = some d ↔
      ∃ w k, d.FallsOn year w k ∧ week = padded 2 w ∧ weekday = padded 1 k := by
  simp only [readWeek?, Option.bind_eq_bind, Option.bind_eq_some_iff, ofWeek?_eq_some_iff,
    asciiNumber?_eq_some_iff weekLength, asciiNumber?_eq_some_iff weekdayLength]
  constructor
  · rintro ⟨w, spelledWeek, k, spelledWeekday, falls⟩
    exact ⟨w, k, falls, spelledWeek, spelledWeekday⟩
  · rintro ⟨w, k, falls, spelledWeek, spelledWeekday⟩
    exact ⟨w, spelledWeek, k, spelledWeekday, falls⟩

theorem readWeek?_monday_iff {year : Nat} {week : Text} {d : Date} (length : week.length = 2) :
    readWeek? year week ['1'] = some d ↔ ∃ w, d.FallsOn year w 1 ∧ week = padded 2 w := by
  have one : asciiNumber? ['1'] = some 1 := rfl
  simp only [readWeek?, Option.bind_eq_bind, Option.bind_eq_some_iff, ofWeek?_eq_some_iff,
    asciiNumber?_eq_some_iff length, one]
  constructor
  · rintro ⟨w, spelled, _, ⟨⟩, falls⟩
    exact ⟨w, falls, spelled⟩
  · rintro ⟨w, falls, spelled⟩
    exact ⟨w, spelled, 1, rfl, falls⟩

theorem isDayOf_of_readMonthDay? {year : Nat} {m n e f : Char} {d : Date}
    (success : readMonthDay? year [m, n] [e, f] = some d) (dash : Text) :
    IsDayOf year dash ([m, n] ++ (dash ++ [e, f])) d := by
  obtain ⟨sameYear, spelledMonth, spelledDay⟩ := (readMonthDay?_eq_some_iff rfl rfl).1 success
  rw [spelledMonth, spelledDay]
  exact .monthDay sameYear

theorem isDayOf_of_readWeek? {year : Nat} {w v k : Char} {d : Date}
    (success : readWeek? year [w, v] [k] = some d) (dash : Text) :
    IsDayOf year dash ('W' :: ([w, v] ++ (dash ++ [k]))) d := by
  obtain ⟨week, weekday, falls, spelledWeek, spelledWeekday⟩ := (readWeek?_eq_some_iff rfl rfl).1 success
  rw [spelledWeek, spelledWeekday]
  exact .weekday falls

theorem isDayOf_of_readWeek?_monday {year : Nat} {w v : Char} {d : Date}
    (success : readWeek? year [w, v] ['1'] = some d) (dash : Text) : IsDayOf year dash ('W' :: [w, v]) d := by
  obtain ⟨week, falls, spelled⟩ := (readWeek?_monday_iff rfl).1 success
  rw [spelled]
  exact .monday falls

theorem isIgnorable_iff {s : Text} : isIgnorable s = true ↔ s = [] ∨ (String.ofList s).utf8ByteSize = 2 := by
  simp [isIgnorable]

/-- Whatever is read behind a year is one of the forms of a day, or one without dashes that two bytes follow. -/
theorem isDayOf_of_readInYear? {year : Nat} {text : Text} {d : Date} (success : readInYear? year text = some d) :
    (∃ dash rest, (dash = [] ∨ dash = ['-']) ∧ text = dash ++ rest ∧ IsDayOf year dash rest d) ∨
      ∃ rest tail, text = rest ++ tail ∧ IsDayOf year [] rest d ∧ rest.length = 4 ∧
        (String.ofList tail).utf8ByteSize = 2 := by
  rw [readInYear?.eq_def] at success
  split at success
  next w v => exact .inl ⟨['-'], _, .inr rfl, rfl, isDayOf_of_readWeek?_monday success ['-']⟩
  next w v k => exact .inl ⟨['-'], _, .inr rfl, rfl, isDayOf_of_readWeek? success ['-']⟩
  next m n e f _ => exact .inl ⟨['-'], _, .inr rfl, rfl, isDayOf_of_readMonthDay? success ['-']⟩
  next w v => exact .inl ⟨[], _, .inl rfl, rfl, isDayOf_of_readWeek?_monday success []⟩
  next w v k tail =>
    split at success
    next ignorable =>
      have isDay := isDayOf_of_readWeek? success []
      rcases isIgnorable_iff.1 ignorable with rfl | twoBytes
      · exact .inl ⟨[], _, .inl rfl, rfl, isDay⟩
      · exact .inr ⟨_, tail, rfl, isDay, rfl, twoBytes⟩
    next => cases success
  next m n e f tail _ _ _ _ =>
    split at success
    next ignorable =>
      have isDay := isDayOf_of_readMonthDay? success []
      rcases isIgnorable_iff.1 ignorable with rfl | twoBytes
      · exact .inl ⟨[], _, .inl rfl, rfl, isDay⟩
      · exact .inr ⟨_, tail, rfl, isDay, rfl, twoBytes⟩
    next => cases success
  next => cases success

theorem exists_padded_two {n : Nat} (short : n < 10 ^ (1 + 1)) : ∃ a b, padded 2 n = [a, b] ∧ a.isDigit = true := by
  obtain ⟨a, b, spelled⟩ := List.length_eq_two.1 (length_padded short)
  exact ⟨a, b, spelled, isDigit_of_mem_padded (spelled ▸ List.mem_cons_self)⟩

theorem month_lt (d : Date) : d.month < 10 ^ (1 + 1) :=
  lt_of_le_of_lt d.real.2.2.2.1 (by decide)

theorem day_lt (d : Date) : d.day < 10 ^ (1 + 1) := by
  have inMonth : d.day ≤ daysInMonth d.year d.month := d.real.2.2.2.2.2
  have short : daysInMonth d.year d.month ≤ 31 := by
    rw [daysInMonth]
    split_ifs <;> decide
  omega

theorem readInYear?_dashed {year : Nat} {m n e f : Char} (digit : m.isDigit = true) :
    readInYear? year ['-', m, n, '-', e, f] = readMonthDay? year [m, n] [e, f] := by
  rw [readInYear?]
  rintro rfl
  cases digit

theorem readInYear?_compact {year : Nat} {m n e f : Char} {tail : Text} (digit : m.isDigit = true) :
    readInYear? year (m :: n :: e :: f :: tail) =
      if isIgnorable tail then readMonthDay? year [m, n] [e, f] else none := by
  have noDash : m ≠ '-' := Numeral.ne_of_isDigit digit rfl
  have noWeek : m ≠ 'W' := Numeral.ne_of_isDigit digit rfl
  rw [readInYear?] <;> simp_all

theorem exists_readMonthDay? (d : Date) :
    ∃ m n e f, padded 2 d.month = [m, n] ∧ padded 2 d.day = [e, f] ∧ m.isDigit = true ∧
      readMonthDay? d.year [m, n] [e, f] = some d := by
  obtain ⟨m, n, spelledMonth, digit⟩ := exists_padded_two d.month_lt
  obtain ⟨e, f, spelledDay, -⟩ := exists_padded_two d.day_lt
  refine ⟨m, n, e, f, spelledMonth, spelledDay, digit, ?_⟩
  exact (readMonthDay?_eq_some_iff rfl rfl).2 ⟨rfl, spelledMonth.symm, spelledDay.symm⟩

theorem FallsOn.exists_readWeek? {d : Date} {year week weekday : Nat} (falls : d.FallsOn year week weekday) :
    ∃ w v k, padded 2 week = [w, v] ∧ padded 1 weekday = [k] ∧ readWeek? year [w, v] [k] = some d := by
  obtain ⟨weekShort, weekdayShort⟩ := falls.bounds
  obtain ⟨w, v, spelledWeek, -⟩ := exists_padded_two (lt_of_le_of_lt weekShort (by decide))
  have spelledWeekday := padded_of_lt (lt_of_le_of_lt weekdayShort (by decide)) 0
  refine ⟨w, v, _, spelledWeek, spelledWeekday, ?_⟩
  exact (readWeek?_eq_some_iff rfl rfl).2 ⟨week, weekday, falls, spelledWeek.symm, spelledWeekday.symm⟩

/-- A full form without dashes is read whatever may be ignored behind it. -/
theorem readInYear?_of_compact {year : Nat} {rest tail : Text} {d : Date} (isDay : IsDayOf year [] rest d)
    (length : rest.length = 4) (ignorable : isIgnorable tail = true) :
    readInYear? year (rest ++ tail) = some d := by
  cases isDay with
  | monthDay sameYear =>
    subst sameYear
    obtain ⟨m, n, e, f, spelledMonth, spelledDay, digit, success⟩ := d.exists_readMonthDay?
    rw [spelledMonth, spelledDay]
    exact (readInYear?_compact digit).trans ((if_pos ignorable).trans success)
  | weekday falls =>
    obtain ⟨w, v, k, spelledWeek, spelledWeekday, success⟩ := falls.exists_readWeek?
    rw [spelledWeek, spelledWeekday]
    exact (if_pos ignorable).trans success
  | monday falls =>
    rw [List.length_cons, length_padded (lt_of_le_of_lt falls.bounds.1 (by decide))] at length
    cases length

theorem readInYear?_of_isDayOf {year : Nat} {dash rest : Text} {d : Date} (isDash : dash = [] ∨ dash = ['-'])
    (isDay : IsDayOf year dash rest d) : readInYear? year (dash ++ rest) = some d := by
  cases isDay with
  | monthDay sameYear =>
    subst sameYear
    obtain ⟨m, n, e, f, spelledMonth, spelledDay, digit, success⟩ := d.exists_readMonthDay?
    rw [spelledMonth, spelledDay]
    rcases isDash with rfl | rfl
    · exact (readInYear?_compact digit).trans success
    · exact (readInYear?_dashed digit).trans success
  | weekday falls =>
    obtain ⟨w, v, k, spelledWeek, spelledWeekday, success⟩ := falls.exists_readWeek?
    rw [spelledWeek, spelledWeekday]
    rcases isDash with rfl | rfl
    · exact success
    · exact success
  | monday falls =>
    obtain ⟨w, v, k, spelled, isMonday, success⟩ := falls.exists_readWeek?
    obtain rfl : k = '1' := (List.cons.inj isMonday).1.symm
    rw [spelled]
    rcases isDash with rfl | rfl
    · exact success
    · exact success

theorem IsDayOf.year_lt {year : Nat} {dash rest : Text} {d : Date} (isDay : IsDayOf year dash rest d) :
    year < 10 ^ (3 + 1) := by
  cases isDay with
  | monthDay sameYear => exact sameYear ▸ lt_of_le_of_lt d.real.2.1 (by decide)
  | weekday falls => exact lt_of_le_of_lt falls.year_le (by decide)
  | monday falls => exact lt_of_le_of_lt falls.year_le (by decide)

theorem readIso?_append {year : Nat} (short : year < 10 ^ (3 + 1)) (rest : Text) :
    readIso? (padded 4 year ++ rest) = readInYear? year rest := by
  obtain ⟨a, b, c, e, spelled⟩ := List.length_eq_four.1 (length_padded short)
  rw [spelled]
  have known := asciiNumber?_padded short
  rw [spelled] at known
  change (asciiNumber? [a, b, c, e]).bind _ = _
  rw [known]
  rfl

/-- The six forms are read as the days that they name, and besides them only forms with two bytes too many. -/
theorem readIso?_eq_some_iff {text : Text} {d : Date} :
    readIso? text = some d ↔ IsIso text d ∨ IsOverlong text d := by
  constructor
  · intro success
    rw [readIso?.eq_def] at success
    split at success
    next a b c e rest =>
      obtain ⟨year, known, success⟩ := Option.bind_eq_some_iff.1 success
      have spelled : [a, b, c, e] = padded 4 year := (asciiNumber?_eq_some_iff rfl).1 known
      rcases isDayOf_of_readInYear? success with ⟨dash, day, isDash, rfl, isDay⟩ | ⟨day, tail, rfl, isDay, rest⟩
      · exact .inl ⟨year, dash, day, isDash, by rw [← spelled]; rfl, isDay⟩
      · exact .inr ⟨year, day, tail, by rw [← spelled]; rfl, isDay, rest⟩
    next => cases success
  · rintro (⟨year, dash, rest, isDash, rfl, isDay⟩ | ⟨year, rest, tail, rfl, isDay, length, twoBytes⟩)
    · rw [readIso?_append isDay.year_lt]
      exact readInYear?_of_isDayOf isDash isDay
    · rw [readIso?_append isDay.year_lt]
      exact readInYear?_of_compact isDay length (isIgnorable_iff.2 (.inr twoBytes))

theorem isIso_writeIso (d : Date) : IsIso d.writeIso d := by
  refine ⟨d.year, ['-'], _, .inr rfl, ?_, .monthDay rfl⟩
  simp [writeIso, padded]

/-- Besides digits a date has only dashes and the mark of a week. -/
theorem IsIso.isDigit_or {text : Text} {d : Date} (isIso : IsIso text d) :
    ∀ c ∈ text, c.isDigit = true ∨ c ∈ ['-', 'W'] := by
  obtain ⟨year, dash, rest, isDash, rfl, isDay⟩ := isIso
  have ofNumber : ∀ {width n : Nat}, ∀ c ∈ padded width n, c.isDigit = true ∨ c ∈ ['-', 'W'] :=
    fun c member => .inl (isDigit_of_mem_padded member)
  have ofDash : ∀ c ∈ dash, c.isDigit = true ∨ c ∈ ['-', 'W'] := by
    rcases isDash with rfl | rfl <;> simp
  refine List.forall_mem_append.2 ⟨ofNumber, List.forall_mem_append.2 ⟨ofDash, ?_⟩⟩
  cases isDay with
  | monthDay => exact List.forall_mem_append.2 ⟨ofNumber, List.forall_mem_append.2 ⟨ofDash, ofNumber⟩⟩
  | weekday =>
    refine List.forall_mem_cons.2 ⟨by simp, ?_⟩
    exact List.forall_mem_append.2 ⟨ofNumber, List.forall_mem_append.2 ⟨ofDash, ofNumber⟩⟩
  | monday => exact List.forall_mem_cons.2 ⟨by simp, ofNumber⟩

theorem IsIso.ne_nil {text : Text} {d : Date} (isIso : IsIso text d) : text ≠ [] := by
  obtain ⟨year, dash, rest, -, rfl, isDay⟩ := isIso
  have length := length_padded isDay.year_lt
  intro empty
  rw [(List.append_eq_nil_iff.1 empty).1] at length
  cases length

end Date

end SearchQuery
