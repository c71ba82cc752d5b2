import SearchQuery.Proofs.Compile.Complaints
import SearchQuery.Proofs.Number.Literal

/-!
# Ranges of durations

A duration is spelled by digits of any script for the hours, the minutes or both, with marks that tell them apart.
What is read as a duration is exactly what is spelled so, and ranges of durations are compared by their minutes.
-/

set_option autoImplicit false

namespace SearchQuery

open SearchQuery.Text SearchQuery.Numeral

/-! ## Digits of any script -/

theorem Text.isBlank_of_digitValue? {c : Char} {d : Nat} (digit : digitValue? c = some d) :
    isBlank c = false := by
  have disjoint : ∀ origin ∈ digitZeros, ∀ k < 10, isBlank (Char.ofNat (origin + k)) = false := by
    decide +kernel
  obtain ⟨origin, member, found⟩ := List.exists_of_findSome?_eq_some digit
  split at found
  next within =>
    have same : Char.ofNat (origin + (c.toNat - origin)) = c := by
      rw [Nat.add_sub_cancel' within.1]
      exact Char.ofNat_toNat c
    rw [← same]
    exact disjoint origin member _ (by omega)
  next => cases found

namespace Bound

theorem exists_digitValue? {c : Char} (digit : isDigit c = true) : ∃ d, digitValue? c = some d :=
  Option.isSome_iff_exists.1 digit

/-- The values of a run of digits. -/
def digitValues (run : Text) : List Nat :=
  run.filterMap digitValue?

theorem length_digitValues {run : Text} (digits : ∀ c ∈ run, isDigit c = true) :
    (digitValues run).length = run.length := by
  induction run with
  | nil => rfl
  | cons c run ih =>
    obtain ⟨first, later⟩ := List.forall_mem_cons.1 digits
    obtain ⟨d, known⟩ := exists_digitValue? first
    rw [digitValues, List.filterMap_cons_some known, List.length_cons, List.length_cons, ← digitValues, ih later]

theorem digitRun_append {run rest : Text} (digits : ∀ c ∈ run, isDigit c = true)
    (stops : ∀ c ∈ rest.head?, isDigit c = false) : digitRun (run ++ rest) = (digitValues run, rest) := by
  have stopped : rest.takeWhile isDigit = [] ∧ rest.dropWhile isDigit = rest := by
    cases rest with
    | nil => exact ⟨rfl, rfl⟩
    | cons c rest => simp [stops c rfl]
  rw [digitRun, List.takeWhile_append_of_pos digits, List.dropWhile_append_of_pos digits, stopped.1, stopped.2,
    List.append_nil, digitValues]

/-- Every text is a run of digits and a rest that does not go on with a digit. -/
theorem exists_digitRun (s : Text) :
    ∃ run rest, (∀ c ∈ run, isDigit c = true) ∧ s = run ++ rest ∧ digitRun s = (digitValues run, rest) := by
  refine ⟨s.takeWhile isDigit, s.dropWhile isDigit, ?_, List.takeWhile_append_dropWhile.symm, rfl⟩
  exact fun c member => List.mem_takeWhile_imp member

theorem exists_cons_digitValues {run : Text} (digits : ∀ c ∈ run, isDigit c = true) (nonempty : run ≠ []) :
    ∃ d ds, digitValues run = d :: ds := by
  apply List.exists_cons_of_ne_nil
  rw [← List.length_pos_iff, length_digitValues digits]
  exact List.length_pos_iff.2 nonempty

/-! ## Literals -/

/-- A number of minutes as a bound. -/
def ofMinutes (n : Nat) : Bound :=
  .integer n

def IsHourMark (c : Char) : Prop :=
  c = 'h' ∨ c = 'H'

/-- The minutes may be marked or not. -/
def IsMinuteMark (mark : Text) : Prop :=
  mark = [] ∨ mark = ['m'] ∨ mark = ['M']

structure IsDigitRun (run : Text) : Prop where
  nonempty : run ≠ []
  digits : ∀ c ∈ run, isDigit c = true

/-- A text that gives minutes, hours, or hours and minutes, and the digits of both. -/
inductive IsTimed : (text hours minutes : Text) → Prop
  | minutes {run mark : Text} (isRun : IsDigitRun run) (marked : IsMinuteMark mark) : IsTimed (run ++ mark) [] run
  | hours {run : Text} {mark : Char} (isRun : IsDigitRun run) (marked : IsHourMark mark) :
      IsTimed (run ++ [mark]) run []
  | both {run more mark : Text} {hourMark : Char} (isRun : IsDigitRun run) (hourMarked : IsHourMark hourMark)
      (moreIsRun : IsDigitRun more) (marked : IsMinuteMark mark) :
      IsTimed (run ++ hourMark :: (more ++ mark)) run more

/-- A spelling of hours and minutes, neither with too many digits, and how many minutes that makes. -/
def IsDurationLiteral (text : Text) (n : Nat) : Prop :=
  ∃ hours minutes, IsTimed text hours minutes ∧ hours.length ≤ maxDigits ∧ minutes.length ≤ maxDigits ∧
    n = 60 * ofDigits 10 (digitValues hours) + ofDigits 10 (digitValues minutes)

theorem isHourMark_iff {c : Char} : (decide (c = 'h') || decide (c = 'H')) = true ↔ IsHourMark c := by
  simp [IsHourMark]

theorem isMinuteMark_iff {s : Text} : isMinuteMark s = true ↔ IsMinuteMark s := by
  simp [isMinuteMark, IsMinuteMark, or_assoc]

theorem IsMinuteMark.stops {mark : Text} (marked : IsMinuteMark mark) : ∀ c ∈ mark.head?, isDigit c = false := by
  rcases marked with rfl | rfl | rfl
  · nofun
  · rintro c ⟨⟩
    decide
  · rintro c ⟨⟩
    decide

theorem IsHourMark.isDigit_eq_false {c : Char} (marked : IsHourMark c) : isDigit c = false := by
  rcases marked with rfl | rfl
  · decide
  · decide

theorem IsHourMark.not_isMinuteMark {c : Char} (marked : IsHourMark c) (rest : Text) :
    ¬isMinuteMark (c :: rest) = true := by
  rw [isMinuteMark_iff]
  rintro (⟨⟨⟩⟩ | ⟨⟨⟩⟩ | ⟨⟨⟩⟩)
  · rcases marked with ⟨⟨⟩⟩ | ⟨⟨⟩⟩
  · rcases marked with ⟨⟨⟩⟩ | ⟨⟨⟩⟩

namespace IsTimed

variable {s hours minutes : Text}

theorem hours_digits (timed : IsTimed s hours minutes) : ∀ c ∈ hours, isDigit c = true := by
  cases timed with
  | minutes => exact List.forall_mem_nil _
  | hours isRun => exact isRun.digits
  | both isRun => exact isRun.digits

theorem minutes_digits (timed : IsTimed s hours minutes) : ∀ c ∈ minutes, isDigit c = true := by
  cases timed with
  | minutes isRun => exact isRun.digits
  | hours => exact List.forall_mem_nil _
  | both _ _ moreIsRun => exact moreIsRun.digits

theorem nonempty (timed : IsTimed s hours minutes) : s ≠ [] := by
  cases timed with
  | minutes isRun => exact List.append_ne_nil_of_left_ne_nil isRun.nonempty _
  | hours isRun => exact List.append_ne_nil_of_left_ne_nil isRun.nonempty _
  | both isRun => exact List.append_ne_nil_of_left_ne_nil isRun.nonempty _

/-- Besides digits a duration has only marks. -/
theorem isDigit_or_mark (timed : IsTimed s hours minutes) :
    ∀ c ∈ s, isDigit c = true ∨ c ∈ ['h', 'H', 'm', 'M'] := by
  have ofRun : ∀ {run : Text}, IsDigitRun run → ∀ c ∈ run, isDigit c = true ∨ c ∈ ['h', 'H', 'm', 'M'] :=
    fun isRun c member => .inl (isRun.digits c member)
  have ofMark : ∀ {mark : Text}, IsMinuteMark mark → ∀ c ∈ mark, isDigit c = true ∨ c ∈ ['h', 'H', 'm', 'M'] := by
    rintro mark (rfl | rfl | rfl) c member <;> simp_all
  have ofHour : ∀ {mark : Char}, IsHourMark mark → isDigit mark = true ∨ mark ∈ ['h', 'H', 'm', 'M'] := by
    rintro mark (rfl | rfl) <;> simp
  cases timed with
  | minutes isRun marked => exact List.forall_mem_append.2 ⟨ofRun isRun, ofMark marked⟩
  | hours isRun marked =>
    exact List.forall_mem_append.2 ⟨ofRun isRun, List.forall_mem_singleton.2 (ofHour marked)⟩
  | both isRun hourMarked moreIsRun marked =>
    exact List.forall_mem_append.2 ⟨ofRun isRun, List.forall_mem_cons.2
      ⟨ofHour hourMarked, List.forall_mem_append.2 ⟨ofRun moreIsRun, ofMark marked⟩⟩⟩

theorem noBlank (timed : IsTimed s hours minutes) : ∀ c ∈ s, isBlank c = false := by
  intro c member
  rcases timed.isDigit_or_mark c member with digit | mark
  · obtain ⟨d, known⟩ := exists_digitValue? digit
    exact isBlank_of_digitValue? known
  · simp only [List.mem_cons, List.not_mem_nil, or_false] at mark
    rcases mark with rfl | rfl | rfl | rfl <;> decide

theorem isPlain (timed : IsTimed s hours minutes) : IsPlain s := by
  intro c member
  rcases timed.isDigit_or_mark c member with digit | mark
  · obtain ⟨d, known⟩ := exists_digitValue? digit
    exact isPlain_digit known c (List.mem_singleton_self c)
  · simp only [List.mem_cons, List.not_mem_nil, or_false] at mark
    rcases mark with rfl | rfl | rfl | rfl <;> decide

end IsTimed

/-! ## Reading -/

theorem isTimed_of_durationDigits? {s : Text} {parts : List Nat × List Nat}
    (success : durationDigits? s = some parts) :
    ∃ hours minutes, IsTimed s hours minutes ∧ parts = (digitValues hours, digitValues minutes) := by
  obtain ⟨run, rest, digits, rfl, runEquation⟩ := exists_digitRun s
  rw [durationDigits?, runEquation] at success
  by_cases nonempty : run = []
  · subst nonempty
    cases success
  · obtain ⟨d, ds, values⟩ := exists_cons_digitValues digits nonempty
    have isRun : IsDigitRun run := ⟨nonempty, digits⟩
    rw [values] at success
    dsimp only at success
    split at success
    next marked =>
      cases success
      exact ⟨[], run, .minutes isRun (isMinuteMark_iff.1 marked), by rw [values]; rfl⟩
    next =>
      split at success
      next => cases success
      next mark more _ =>
        split at success
        next isMark =>
          have marked := isHourMark_iff.1 isMark
          obtain ⟨second, last, moreDigits, rfl, moreEquation⟩ := exists_digitRun more
          rw [moreEquation] at success
          by_cases moreNonempty : second = []
          · subst moreNonempty
            cases last with
            | nil =>
              cases success
              exact ⟨run, [], .hours isRun marked, by rw [values]; rfl⟩
            | cons c last => cases success
          · obtain ⟨e, es, moreValues⟩ := exists_cons_digitValues moreDigits moreNonempty
            rw [moreValues] at success
            dsimp only at success
            split at success
            next minuteMarked =>
              cases success
              refine ⟨run, second, .both isRun marked ⟨moreNonempty, moreDigits⟩ (isMinuteMark_iff.1 minuteMarked), ?_⟩
              rw [values, moreValues]
            next => cases success
        next => cases success

theorem durationDigits?_of_isTimed {s hours minutes : Text} (timed : IsTimed s hours minutes) :
    durationDigits? s = some (digitValues hours, digitValues minutes) := by
  cases timed with
  | @minutes _ mark isRun marked =>
    obtain ⟨d, ds, values⟩ := exists_cons_digitValues isRun.digits isRun.nonempty
    rw [durationDigits?, digitRun_append isRun.digits marked.stops, values]
    exact if_pos (isMinuteMark_iff.2 marked)
  | @hours _ mark isRun marked =>
    obtain ⟨d, ds, values⟩ := exists_cons_digitValues isRun.digits isRun.nonempty
    have stops : ∀ c ∈ [mark].head?, isDigit c = false := by
      rintro c ⟨⟩
      exact marked.isDigit_eq_false
    rw [durationDigits?, digitRun_append isRun.digits stops, values]
    dsimp only
    rw [if_neg (marked.not_isMinuteMark []), if_pos (isHourMark_iff.2 marked)]
    rfl
  | @both _ _ mark hourMark isRun hourMarked moreIsRun marked =>
    obtain ⟨d, ds, values⟩ := exists_cons_digitValues isRun.digits isRun.nonempty
    obtain ⟨e, es, moreValues⟩ := exists_cons_digitValues moreIsRun.digits moreIsRun.nonempty
    have stops : ∀ c ∈ (hourMark :: (minutes ++ mark)).head?, isDigit c = false := by
      rintro c ⟨⟩
      exact hourMarked.isDigit_eq_false
    rw [durationDigits?, digitRun_append isRun.digits stops, values]
    dsimp only
    rw [if_neg (hourMarked.not_isMinuteMark _), if_pos (isHourMark_iff.2 hourMarked),
      digitRun_append moreIsRun.digits marked.stops, moreValues]
    exact if_pos (isMinuteMark_iff.2 marked)

theorem ofDurationRun_eq_ok_iff {digits : List Nat} {n : Nat} :
    ofDurationRun digits = .ok n ↔ digits.length ≤ maxDigits ∧ ofDigits 10 digits = n := by
  rw [ofDurationRun, ofDigitRun]
  by_cases tooLong : digits.length > maxDigits
  · simp [tooLong]
  · simp [tooLong, Nat.not_lt.1 tooLong]

theorem readDuration_eq_ok_iff {s : Text} (trimmed : Trimmed s) {value : Bound} :
    readDuration s = .ok value ↔ ∃ n, IsDurationLiteral s n ∧ value = ofMinutes n := by
  have kept : dropFinalNewline s = s := by
    rw [dropFinalNewline, if_neg]
    intro isLast
    have solid := trimmed.last _ isLast
    exact absurd solid (by decide)
  rw [readDuration, kept]
  constructor
  · intro success
    split at success
    next => cases success
    next hourDigits minuteDigits found =>
      obtain ⟨hours, minutes, timed, same⟩ := isTimed_of_durationDigits? found
      cases same
      obtain ⟨h, hoursRead, success⟩ := Outcome.bind_eq_ok success
      obtain ⟨m, minutesRead, success⟩ := Outcome.bind_eq_ok success
      cases success
      obtain ⟨hoursShort, rfl⟩ := ofDurationRun_eq_ok_iff.1 hoursRead
      obtain ⟨minutesShort, rfl⟩ := ofDurationRun_eq_ok_iff.1 minutesRead
      rw [length_digitValues timed.hours_digits] at hoursShort
      rw [length_digitValues timed.minutes_digits] at minutesShort
      refine ⟨_, ⟨hours, minutes, timed, hoursShort, minutesShort, rfl⟩, ?_⟩
      rw [ofMinutes, Nat.mul_comm 60]
  · rintro ⟨n, ⟨hours, minutes, timed, hoursShort, minutesShort, rfl⟩, rfl⟩
    have hoursRead := ofDurationRun_eq_ok_iff.2
      ⟨(length_digitValues timed.hours_digits).trans_le hoursShort, rfl⟩
    have minutesRead := ofDurationRun_eq_ok_iff.2
      ⟨(length_digitValues timed.minutes_digits).trans_le minutesShort, rfl⟩
    rw [durationDigits?_of_isTimed timed]
    dsimp only
    rw [hoursRead, minutesRead, Nat.mul_comm 60]
    rfl

theorem readDuration_nil (value : Bound) : readDuration [] ≠ .ok value := by
  have failed : readDuration [] = .error (.notDuration []) := rfl
  rw [failed]
  exact nofun

end Bound

namespace Range

open SearchQuery.Bound

theorem whole_of_isDurationLiteral {s : Text} {n : Nat} (isLiteral : IsDurationLiteral s n) : Whole ['-'] s := by
  obtain ⟨hours, minutes, timed, -⟩ := isLiteral
  have trimmed : Trimmed ([] ++ s) := trimmed_of_noBlank timed.noBlank
  exact whole_of_isUnsigned (.inl rfl) (.plain timed.nonempty timed.isPlain) trimmed

/-- A range of durations is read exactly if the text spells it. -/
theorem read_duration_iff {field : Field} {text : Text} {range : Range} :
    read field Bound.readDuration ['-'] text = .ok range ↔
      ∃ (reading : Reading) (low high : Option Nat), reading.Spells ['-'] (trim text) ∧
        reading.Bounds IsDurationLiteral (· ≤ ·) low high ∧
        range = ⟨field, low.map ofMinutes, high.map ofMinutes⟩ := by
  constructor
  · intro success
    obtain ⟨rfl, reading, spells, -, trimmed, bounds⟩ :=
      exists_spells_of_read isSeparator_dash readDuration_nil success
    obtain ⟨low, high, literalBounds, lowEquation, highEquation⟩ := bounds.exists_of_map
      (fun part member value success => (readDuration_eq_ok_iff (trimmed part member)).1 success)
      (fun a b uncrossed => by simpa [exceeds?, ofMinutes] using uncrossed)
    refine ⟨reading, low, high, spells, literalBounds, ?_⟩
    rw [← lowEquation, ← highEquation]
  · rintro ⟨reading, low, high, spells, bounds, rfl⟩
    have whole : ∀ part ∈ reading.texts, Whole ['-'] part := by
      intro part member
      obtain ⟨n, isLiteral⟩ := bounds.exists_literal part member
      exact whole_of_isDurationLiteral isLiteral
    have unsigned : ∀ part ∈ reading.texts, ¬['-'] <+: part := by
      intro part member
      obtain ⟨n, hours, minutes, timed, -⟩ := bounds.exists_literal part member
      rintro ⟨rest, rfl⟩
      exact (timed.isPlain '-' (by simp)).1 rfl
    refine read_of_spells isSeparator_dash readDuration_nil spells
      (Reading.unambiguous_of_unsigned unsigned _) whole ?_ field
    refine bounds.map ofMinutes ?_ ?_
    · intro part member n isLiteral
      exact (readDuration_eq_ok_iff (whole part member).trimmed).2 ⟨n, isLiteral, rfl⟩
    · intro s t a b _ _ ordered
      simpa [exceeds?, ofMinutes] using ordered

end Range

namespace FieldReader

open SearchQuery.Bound

theorem convert_duration_iff {field : Field} {rule : Rule} {segment : Segment} {query : Query} :
    (⟨field, rule, .duration⟩ : FieldReader).convert segment = .ok query ↔
      ∃ (reading : Range.Reading) (low high : Option Nat), reading.Spells ['-'] (trim segment.value) ∧
        reading.Bounds IsDurationLiteral (· ≤ ·) low high ∧
        query = .range ⟨field, low.map ofMinutes, high.map ofMinutes⟩ := by
  have ranged := @convert_eq_ok_iff ⟨field, rule, .duration⟩ readDuration ['-'] segment query rfl
  rw [ranged]
  constructor
  · rintro ⟨range, rfl, success⟩
    obtain ⟨reading, low, high, spells, bounds, rfl⟩ := Range.read_duration_iff.1 success
    exact ⟨reading, low, high, spells, bounds, rfl⟩
  · rintro ⟨reading, low, high, spells, bounds, rfl⟩
    exact ⟨_, rfl, Range.read_duration_iff.2 ⟨reading, low, high, spells, bounds, rfl⟩⟩

/-- A reader of durations gives a range exactly for the texts that spell one, with the minutes that they spell as
bounds, and complains about all others.  In particular every spelling of hours and minutes is understood. -/
theorem convert_duration_exactly (field : Field) (rule : Rule) :
    let reader : FieldReader := ⟨field, rule, .duration⟩
    (∀ (segment : Segment) (query : Query), reader.convert segment = .ok query ↔
      ∃ (reading : Range.Reading) (low high : Option Nat), reading.Spells ['-'] (trim segment.value) ∧
        reading.Bounds IsDurationLiteral (· ≤ ·) low high ∧
        query = .range ⟨field, low.map ofMinutes, high.map ofMinutes⟩) ∧
    (∀ segment : Segment, (∃ query, reader.convert segment = .ok query) ∨
      ∃ cause, reader.convert segment = .error (.conversion (some field) segment.rawText cause)) ∧
    ∀ (segment : Segment) (hours minutes : Text), IsTimed (trim segment.value) hours minutes →
      hours.length ≤ maxDigits → minutes.length ≤ maxDigits →
      let total := 60 * ofDigits 10 (digitValues hours) + ofDigits 10 (digitValues minutes)
      reader.convert segment = .ok (.range ⟨field, some (ofMinutes total), some (ofMinutes total)⟩) := by
  intro reader
  refine ⟨fun segment query => convert_duration_iff, reader.convert_ok_or_conversion, ?_⟩
  intro segment hours minutes timed hoursShort minutesShort total
  have isLiteral : IsDurationLiteral (trim segment.value) total :=
    ⟨hours, minutes, timed, hoursShort, minutesShort, rfl⟩
  exact convert_duration_iff.2 ⟨.exact _, some total, some total, .exact _, .exact isLiteral, rfl⟩

theorem convert_duration_exactly_mixed :
    let reader : FieldReader := ⟨.duration, .ofFolded "d" [] [] rfl rfl, .duration⟩
    reader.convert ⟨"d:' ١H30 - 2h'".toList, some ['d'], " ١H30 - 2h".toList, false⟩ =
        .ok (.range ⟨.duration, some (ofMinutes 90), some (ofMinutes 120)⟩) ∧
      reader.convert ⟨"d:1h30M".toList, some ['d'], "1h30M".toList, false⟩ =
        .ok (.range ⟨.duration, some (ofMinutes 90), some (ofMinutes 90)⟩) := by
  have single : ∀ {c : Char}, isDigit c = true → IsDigitRun [c] := fun digit =>
    ⟨List.cons_ne_nil _ _, List.forall_mem_singleton.2 digit⟩
  have one : IsDigitRun ['١'] := single (by decide)
  have alsoOne : IsDigitRun ['1'] := single (by decide)
  have two : IsDigitRun ['2'] := single (by decide)
  have thirty : IsDigitRun ['3', '0'] :=
    ⟨nofun, List.forall_mem_cons.2 ⟨by decide, List.forall_mem_singleton.2 (by decide)⟩⟩
  obtain ⟨exactly, -, timed⟩ := convert_duration_exactly .duration (.ofFolded "d" [] [] rfl rfl)
  refine ⟨?_, ?_⟩
  · refine (exactly _ _).2 ⟨.between "١H30".toList "2h".toList, some 90, some 120, ?_, ?_, rfl⟩
    · exact @Range.Reading.Spells.between ['-'] "١H30".toList [' '] [' '] "2h".toList rfl rfl
    · refine .between ⟨['١'], ['3', '0'], .both one (.inr rfl) thirty (.inl rfl), ?_⟩
        ⟨['2'], [], .hours two (.inl rfl), ?_⟩ (by decide)
      · decide
      · decide
  · exact timed _ ['1'] ['3', '0'] (.both alsoOne (.inl rfl) thirty (.inr (.inr rfl))) (by decide) (by decide)

end FieldReader

end SearchQuery
