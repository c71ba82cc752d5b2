import SearchQuery.Proofs.Compile.Complaints
import SearchQuery.Proofs.Number.Literal

/-!
# Ranges of numbers

A dash may be the separator of a range, the sign of a number or the sign of an exponent.  Still a text has at most
one reading as a range of numbers, and that reading is the one which is taken.
-/

set_option autoImplicit false

namespace SearchQuery

open SearchQuery.Text SearchQuery.Numeral

namespace Bound

/-- A trimmed text that is read as a number. -/
def IsNumberLiteral (part : Text) (value : Bound) : Prop :=
  Trimmed part ∧ readNumber part = .ok value

theorem readNumber_nil (value : Bound) : readNumber [] ≠ .ok value := by
  have failed : readNumber [] = .error (.notNumber []) := rfl
  rw [failed]
  exact nofun

theorem isNumberLiteral_writeInteger {n : Int} (short : n.natAbs < 10 ^ maxDigits) :
    IsNumberLiteral (writeInteger n) (.integer n) := by
  refine ⟨trimmed_writeInteger n, ?_⟩
  rw [readNumber, readInteger_writeInteger short]

end Bound

namespace Range

theorem whole_of_isNumberLiteral {part : Text} (isLiteral : ∃ value, Bound.IsNumberLiteral part value) :
    Whole ['-'] part := by
  obtain ⟨value, trimmed, success⟩ := isLiteral
  exact whole_of_readNumber trimmed success

theorem Reading.numberBounds_iff {reading : Reading} {low high : Option Bound} :
    reading.Bounds Bound.IsNumberLiteral Bound.NoGreater low high ↔
      (∀ part ∈ reading.texts, Trimmed part) ∧ reading.ReadBounds Bound.readNumber low high := by
  constructor
  · intro bounds
    refine ⟨?_, bounds.imp (fun _ _ _ isLiteral => isLiteral.2) ?_⟩
    · intro part member
      obtain ⟨value, isLiteral⟩ := bounds.exists_literal part member
      exact isLiteral.1
    · intro s t a b lowLiteral highLiteral
      exact (Bound.noGreater_iff_of_readNumber lowLiteral.2 highLiteral.2).1
  · rintro ⟨trimmed, bounds⟩
    refine bounds.imp (fun part member _ success => ⟨trimmed part member, success⟩) ?_
    intro s t a b lowRead highRead
    exact (Bound.noGreater_iff_of_readNumber lowRead highRead).2

/-- A range of numbers is read exactly if the text spells it. -/
theorem read_number_iff {field : Field} {text : Text} {range : Range} :
    read field Bound.readNumber ['-'] text = .ok range ↔
      ∃ (reading : Reading) (low high : Option Bound), reading.Spells ['-'] (trim text) ∧
        reading.Unambiguous ['-'] (trim text) ∧
        reading.Bounds Bound.IsNumberLiteral Bound.NoGreater low high ∧ range = ⟨field, low, high⟩ := by
  constructor
  · intro success
    obtain ⟨rfl, reading, spells, unambiguous, trimmed, bounds⟩ :=
      exists_spells_of_read isSeparator_dash Bound.readNumber_nil success
    exact ⟨reading, range.min, range.max, spells, unambiguous,
      Reading.numberBounds_iff.2 ⟨trimmed, bounds⟩, rfl⟩
  · rintro ⟨reading, low, high, spells, unambiguous, bounds, rfl⟩
    have whole : ∀ part ∈ reading.texts, Whole ['-'] part := fun part member =>
      whole_of_isNumberLiteral (bounds.exists_literal part member)
    exact read_of_spells isSeparator_dash Bound.readNumber_nil spells unambiguous whole
      (Reading.numberBounds_iff.1 bounds).2 field

theorem read_number_of_noBlank {field : Field} {text : Text} (noBlank : ∀ c ∈ text, isBlank c = false)
    {reading : Reading} {low high : Option Bound} (spells : reading.Spells ['-'] text)
    (unambiguous : reading.Unambiguous ['-'] text)
    (bounds : reading.Bounds Bound.IsNumberLiteral Bound.NoGreater low high) :
    read field Bound.readNumber ['-'] text = .ok ⟨field, low, high⟩ := by
  have trimmed := (trimmed_of_noBlank noBlank).trim_eq_self
  exact read_number_iff.2 ⟨reading, low, high, by rwa [trimmed], by rwa [trimmed], bounds, rfl⟩

theorem isBlank_dash : isBlank '-' = false := by
  decide

theorem read_integers {a b : Int} (lowShort : a.natAbs < 10 ^ maxDigits) (highShort : b.natAbs < 10 ^ maxDigits)
    (ordered : a ≤ b) (field : Field) :
    read field Bound.readNumber ['-'] (writeInteger a ++ '-' :: writeInteger b) =
      .ok ⟨field, some (.integer a), some (.integer b)⟩ := by
  have noBlank : ∀ c ∈ writeInteger a ++ '-' :: writeInteger b, isBlank c = false :=
    List.forall_mem_append.2
      ⟨noBlank_writeInteger a, List.forall_mem_cons.2 ⟨isBlank_dash, noBlank_writeInteger b⟩⟩
  have spells : (Reading.between (writeInteger a) (writeInteger b)).Spells ['-']
      (writeInteger a ++ '-' :: writeInteger b) := by
    simpa using @Reading.Spells.between ['-'] (writeInteger a) [] [] (writeInteger b) rfl rfl
  refine read_number_of_noBlank noBlank spells trivial (.between (Bound.isNumberLiteral_writeInteger lowShort)
    (Bound.isNumberLiteral_writeInteger highShort) ?_)
  exact ⟨a, b, rfl, rfl, Int.cast_le.2 ordered⟩

theorem read_integer_atLeast {a : Int} (short : a.natAbs < 10 ^ maxDigits) (field : Field) :
    read field Bound.readNumber ['-'] (writeInteger a ++ ['-']) = .ok ⟨field, some (.integer a), none⟩ := by
  have noBlank : ∀ c ∈ writeInteger a ++ ['-'], isBlank c = false :=
    List.forall_mem_append.2 ⟨noBlank_writeInteger a, List.forall_mem_singleton.2 isBlank_dash⟩
  have spells : (Reading.atLeast (writeInteger a)).Spells ['-'] (writeInteger a ++ ['-']) := by
    simpa using @Reading.Spells.atLeast ['-'] (writeInteger a) [] rfl
  exact read_number_of_noBlank noBlank spells trivial (.atLeast (Bound.isNumberLiteral_writeInteger short))

theorem read_integer_atMost {b : Int} (short : b.natAbs < 10 ^ maxDigits) (field : Field) :
    read field Bound.readNumber ['-'] ('-' :: writeInteger b) = .ok ⟨field, none, some (.integer b)⟩ := by
  have noBlank : ∀ c ∈ '-' :: writeInteger b, isBlank c = false :=
    List.forall_mem_cons.2 ⟨isBlank_dash, noBlank_writeInteger b⟩
  have spells : (Reading.atMost (writeInteger b)).Spells ['-'] ('-' :: writeInteger b) :=
    @Reading.Spells.atMost ['-'] [] (writeInteger b) rfl
  exact read_number_of_noBlank noBlank spells (.inl rfl) (.atMost (Bound.isNumberLiteral_writeInteger short))

end Range

namespace FieldReader

theorem convert_number_iff {field : Field} {rule : Rule} {segment : Segment} {query : Query} :
    (⟨field, rule, .number .number⟩ : FieldReader).convert segment = .ok query ↔
      ∃ range, query = .range range ∧ Range.read field Bound.readNumber ['-'] segment.value = .ok range :=
  convert_eq_ok_iff rfl

/-- A reader of numbers gives a range exactly for the texts that spell one and complains about all others; no text
spells two ranges; and integers in any combination are read back from their numerals. -/
theorem convert_number_exactly (field : Field) (rule : Rule) :
    let reader : FieldReader := ⟨field, rule, .number .number⟩
    (∀ (segment : Segment) (query : Query), reader.convert segment = .ok query ↔
      ∃ (reading : Range.Reading) (low high : Option Bound), reading.Spells ['-'] (trim segment.value) ∧
        reading.Unambiguous ['-'] (trim segment.value) ∧
        reading.Bounds Bound.IsNumberLiteral Bound.NoGreater low high ∧
        query = .range ⟨field, low, high⟩) ∧
    (∀ segment : Segment, (∃ query, reader.convert segment = .ok query) ∨
      ∃ cause, reader.convert segment = .error (.conversion (some field) segment.rawText cause)) ∧
    (∀ (text : Text) (reading other : Range.Reading),
      reading.Spells ['-'] text → reading.Unambiguous ['-'] text →
      (∀ part ∈ reading.texts, ∃ value, Bound.IsNumberLiteral part value) →
      other.Spells ['-'] text → other.Unambiguous ['-'] text →
      (∀ part ∈ other.texts, ∃ value, Bound.IsNumberLiteral part value) → reading = other) ∧
    ∀ (a b : Int) (segment : Segment), a.natAbs < 10 ^ maxDigits → b.natAbs < 10 ^ maxDigits →
      (segment.value = writeInteger a ++ '-' :: writeInteger b → a ≤ b →
        reader.convert segment = .ok (.range ⟨field, some (.integer a), some (.integer b)⟩)) ∧
      (segment.value = writeInteger a ++ ['-'] →
        reader.convert segment = .ok (.range ⟨field, some (.integer a), none⟩)) ∧
      (segment.value = '-' :: writeInteger b →
        reader.convert segment = .ok (.range ⟨field, none, some (.integer b)⟩)) := by
  intro reader
  refine ⟨?_, reader.convert_ok_or_conversion, ?_, ?_⟩
  · intro segment query
    rw [convert_number_iff]
    constructor
    · rintro ⟨range, rfl, success⟩
      obtain ⟨reading, low, high, spells, unambiguous, bounds, rfl⟩ := Range.read_number_iff.1 success
      exact ⟨reading, low, high, spells, unambiguous, bounds, rfl⟩
    · rintro ⟨reading, low, high, spells, unambiguous, bounds, rfl⟩
      exact ⟨_, rfl, Range.read_number_iff.2 ⟨reading, low, high, spells, unambiguous, bounds, rfl⟩⟩
  · intro text reading other spells unambiguous literals otherSpells otherUnambiguous otherLiterals
    exact spells.unique Range.isSeparator_dash unambiguous
      (fun part member => Range.whole_of_isNumberLiteral (literals part member)) otherSpells otherUnambiguous
      fun part member => Range.whole_of_isNumberLiteral (otherLiterals part member)
  · intro a b segment lowShort highShort
    refine ⟨?_, ?_, ?_⟩
    · intro spelled ordered
      exact convert_number_iff.2 ⟨_, rfl, spelled ▸ Range.read_integers lowShort highShort ordered field⟩
    · intro spelled
      exact convert_number_iff.2 ⟨_, rfl, spelled ▸ Range.read_integer_atLeast lowShort field⟩
    · intro spelled
      exact convert_number_iff.2 ⟨_, rfl, spelled ▸ Range.read_integer_atMost highShort field⟩

theorem convert_number_exactly_signed :
    let reader : FieldReader := ⟨.duration, .ofFolded "d" [] [] rfl rfl, .number .number⟩
    reader.convert ⟨"d:-5--1".toList, some ['d'], "-5--1".toList, false⟩ =
        .ok (.range ⟨.duration, some (.integer (-5)), some (.integer (-1))⟩) ∧
      reader.convert ⟨"d:--5".toList, some ['d'], "--5".toList, false⟩ =
        .ok (.range ⟨.duration, none, some (.integer (-5))⟩) := by
  have short : ∀ n : Nat, n < 10 → n < 10 ^ maxDigits := fun n small =>
    lt_of_lt_of_le small (Nat.le_self_pow (by decide) 10)
  obtain ⟨-, -, -, integers⟩ := convert_number_exactly .duration (.ofFolded "d" [] [] rfl rfl)
  refine ⟨?_, ?_⟩
  · exact (integers (-5) (-1) _ (short _ (by decide)) (short _ (by decide))).1 rfl (by decide)
  · exact (integers 0 (-5) _ (short _ (by decide)) (short _ (by decide))).2.2 rfl

end FieldReader

end SearchQuery
