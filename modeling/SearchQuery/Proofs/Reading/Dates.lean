import SearchQuery.Proofs.Calendar.Iso
import SearchQuery.Proofs.Compile.Complaints
import SearchQuery.Proofs.Compile.Typed
import SearchQuery.Query.Document

/-!
# Ranges of dates

A range of dates is read from exactly the texts that spell it in the forms of dates; it can be typed in the written
forms of its dates, and its document shows the same forms again.
-/

set_option autoImplicit false

namespace SearchQuery

open SearchQuery.Text

namespace Bound

theorem readDate_eq_ok_iff {s : Text} {value : Bound} :
    readDate s = .ok value ↔ ∃ d, Date.readIso? s = some d ∧ value = .date d := by
  rw [readDate]
  cases Date.readIso? s with
  | none => simp
  | some d => simp [eq_comm]

theorem readDate_nil (value : Bound) : readDate [] ≠ .ok value := by
  have failed : readDate [] = .error (.notDate []) := rfl
  rw [failed]
  exact nofun

theorem exceeds?_date_eq_some_false_iff {a b : Date} : (date a).exceeds? (date b) = some false ↔ a ≤ b := by
  rw [exceeds?, Option.some_inj, Bool.eq_false_iff, ne_eq, Date.less_iff_lt, not_lt]

end Bound

namespace Range

open SearchQuery.Bound

theorem isSeparator_dots : IsSeparator ['.', '.'] := by
  refine ⟨by simp, by simp, ?_⟩
  intro c member
  rcases List.mem_pair.1 member with rfl | rfl <;> decide

/-- No character of a date is one at which a range of dates is divided or behind which it is not. -/
theorem whole_of_isIso {part : Text} {d : Date} (isIso : Date.IsIso part d) : Whole ['.', '.'] part := by
  have each : ∀ c ∈ part, isBlank c = false ∧ c ≠ '.' ∧ c ≠ 'e' ∧ c ≠ 'E' := by
    intro c member
    rcases isIso.isDigit_or c member with digit | mark
    · refine ⟨Numeral.isBlank_of_isDigit digit, ?_, ?_, ?_⟩ <;> exact Numeral.ne_of_isDigit digit rfl
    · rcases List.mem_pair.1 mark with rfl | rfl <;> decide
  refine ⟨isIso.ne_nil, trimmed_of_noBlank fun c member => (each c member).1, ?_, ?_⟩
  · rintro before after ⟨rfl, -⟩
    exact absurd rfl (each '.' (by simp)).2.1
  · rw [List.getLast?_eq_some_getLast isIso.ne_nil]
    obtain ⟨-, noDot, noMark, noCapital⟩ := each _ (List.getLast_mem isIso.ne_nil)
    simp [dividesAfter, noMark, noCapital, Ne.symm noDot]

theorem unsigned_of_isIso {part : Text} {d : Date} (isIso : Date.IsIso part d) : ¬['.', '.'] <+: part := by
  rintro ⟨rest, rfl⟩
  rcases isIso.isDigit_or '.' (by simp) with digit | mark
  · cases digit
  · revert mark
    decide

/-- What is spelled with the forms of dates is read as it was meant. -/
theorem of?_of_dates {reading : Reading} {text : Text} (spells : reading.Spells ['.', '.'] text)
    (dates : ∀ part ∈ reading.texts, ∃ d, Date.IsIso part d) : Reading.of? ['.', '.'] text = some reading := by
  refine Reading.of?_of_spells isSeparator_dots spells (Reading.unambiguous_of_unsigned ?_ text) ?_
  · intro part member
    obtain ⟨d, isIso⟩ := dates part member
    exact unsigned_of_isIso isIso
  · intro part member
    obtain ⟨d, isIso⟩ := dates part member
    exact whole_of_isIso isIso

theorem read_of_dates {reading : Reading} {text : Text} {low high : Option Date}
    (spells : reading.Spells ['.', '.'] (trim text)) (bounds : reading.Bounds Date.IsIso (· ≤ ·) low high)
    (field : Field) : read field readDate ['.', '.'] text = .ok ⟨field, low.map .date, high.map .date⟩ := by
  refine (read_eq_ok_iff readDate_nil).2 ⟨reading, of?_of_dates spells bounds.exists_literal, rfl, ?_⟩
  refine bounds.map Bound.date ?_ ?_
  · intro part _ d isIso
    exact readDate_eq_ok_iff.2 ⟨d, Date.readIso?_eq_some_iff.2 (.inl isIso), rfl⟩
  · intro s t a b _ _ ordered
    exact exceeds?_date_eq_some_false_iff.2 ordered

theorem exists_dates_of_read {field : Field} {text : Text} {range : Range}
    (success : read field readDate ['.', '.'] text = .ok range) :
    ∃ (reading : Reading) (low high : Option Date), reading.Spells ['.', '.'] (trim text) ∧
      reading.Bounds (fun part d => Date.readIso? part = some d) (· ≤ ·) low high ∧
      range = ⟨field, low.map .date, high.map .date⟩ := by
  obtain ⟨rfl, reading, spells, -, -, bounds⟩ := exists_spells_of_read isSeparator_dots readDate_nil success
  obtain ⟨low, high, dateBounds, lowEquation, highEquation⟩ := bounds.exists_of_map
    (fun part _ value success => readDate_eq_ok_iff.1 success)
    (fun a b uncrossed => exceeds?_date_eq_some_false_iff.1 uncrossed)
  refine ⟨reading, low, high, spells, dateBounds, ?_⟩
  rw [← lowEquation, ← highEquation]

/-- Two dates in the wrong order are no range. -/
theorem read_crossed_dates {text low high : Text} {a b : Date}
    (spells : (Reading.between low high).Spells ['.', '.'] (trim text)) (lowIso : Date.IsIso low a)
    (highIso : Date.IsIso high b) (crossed : b < a) (field : Field) (range : Range) :
    read field readDate ['.', '.'] text ≠ .ok range := by
  intro success
  obtain ⟨reading, taken, -, bounds⟩ := (read_eq_ok_iff readDate_nil).1 success
  have meant : Reading.of? ['.', '.'] (trim text) = some (.between low high) := by
    refine of?_of_dates spells ?_
    intro part member
    rcases List.mem_pair.1 member with rfl | rfl
    · exact ⟨a, lowIso⟩
    · exact ⟨b, highIso⟩
  cases taken.symm.trans meant
  have lowRead : readDate low = .ok (.date a) :=
    readDate_eq_ok_iff.2 ⟨a, Date.readIso?_eq_some_iff.2 (.inl lowIso), rfl⟩
  have highRead : readDate high = .ok (.date b) :=
    readDate_eq_ok_iff.2 ⟨b, Date.readIso?_eq_some_iff.2 (.inl highIso), rfl⟩
  generalize range.min = min, range.max = max at bounds
  cases bounds with
  | between lowMeans highMeans ordered =>
    cases lowRead.symm.trans lowMeans
    cases highRead.symm.trans highMeans
    exact absurd crossed (not_lt.2 (exceeds?_date_eq_some_false_iff.1 ordered))

/-- The document of a range of dates shows the dates in their written forms. -/
def datesValue (field : Field) (low high : Option Date) : Value :=
  .table [("range".toList, .table (("field".toList, .text field.name) ::
    (low.toList.map fun d => ("min".toList, .text d.writeIso)) ++
      high.toList.map fun d => ("max".toList, .text d.writeIso)))]

theorem toValue_dates (field : Field) (low high : Option Date) :
    (⟨field, low.map .date, high.map .date⟩ : Range).toValue = datesValue field low high := by
  cases low <;> cases high <;> rfl

end Range

/-- Without overrides every field has its default rule and its default kind of values. -/
theorem Registry.exists_default :
    ∃ registry, ofOverrides [] = .ok registry ∧
      registry.readers = Field.all.map fun field => ⟨field, field.defaultRule, field.defaultKind⟩ :=
  ⟨_, rfl, rfl⟩

namespace FieldReader

theorem convert_date_iff {field : Field} {rule : Rule} {segment : Segment} {query : Query} :
    (⟨field, rule, .date⟩ : FieldReader).convert segment = .ok query ↔
      ∃ range, query = .range range ∧ Range.read field Bound.readDate ['.', '.'] segment.value = .ok range :=
  convert_eq_ok_iff rfl

/-- What a reader of dates makes of a text that spells dates in their forms. -/
theorem convert_of_dates {field : Field} {rule : Rule} {segment : Segment} {reading : Range.Reading}
    {low high : Option Date} (spells : reading.Spells ['.', '.'] (trim segment.value))
    (bounds : reading.Bounds Date.IsIso (· ≤ ·) low high) :
    (⟨field, rule, .date⟩ : FieldReader).convert segment =
      .ok (.range ⟨field, low.map .date, high.map .date⟩) :=
  convert_date_iff.2 ⟨_, rfl, Range.read_of_dates spells bounds field⟩

theorem exists_dates_of_convert {field : Field} {rule : Rule} {segment : Segment} {query : Query}
    (success : (⟨field, rule, .date⟩ : FieldReader).convert segment = .ok query) :
    ∃ (reading : Range.Reading) (low high : Option Date), reading.Spells ['.', '.'] (trim segment.value) ∧
      reading.Bounds (fun part d => Date.readIso? part = some d) (· ≤ ·) low high ∧
      query = .range ⟨field, low.map .date, high.map .date⟩ := by
  obtain ⟨range, rfl, read⟩ := convert_date_iff.1 success
  obtain ⟨reading, low, high, spells, bounds, rfl⟩ := Range.exists_dates_of_read read
  exact ⟨reading, low, high, spells, bounds, rfl⟩

theorem convert_crossed_dates {field : Field} {rule : Rule} {segment : Segment} {low high : Text} {a b : Date}
    (spells : (Range.Reading.between low high).Spells ['.', '.'] (trim segment.value)) (lowIso : Date.IsIso low a)
    (highIso : Date.IsIso high b) (crossed : b < a) :
    ∃ cause, (⟨field, rule, .date⟩ : FieldReader).convert segment =
      .error (.conversion (some field) segment.rawText cause) := by
  rcases convert_ok_or_conversion ⟨field, rule, .date⟩ segment with ⟨query, success⟩ | failure
  · obtain ⟨range, -, read⟩ := convert_date_iff.1 success
    exact absurd read (Range.read_crossed_dates spells lowIso highIso crossed field range)
  · exact failure

end FieldReader

/-! ## Typed dates -/

theorem Selector.isReserved_of_isDigit {c : Char} (digit : c.isDigit = true) : isReserved c = false := by
  have noMark : c ≠ ':' ∧ c ≠ '"' ∧ c ≠ '\\' := by
    refine ⟨?_, ?_, ?_⟩ <;> exact Numeral.ne_of_isDigit digit rfl
  simp [isReserved, Numeral.isBlank_of_isDigit digit, noMark]

theorem Date.IsIso.unreserved {text : Text} {d : Date} (isIso : IsIso text d) :
    ∀ c ∈ text, Selector.isReserved c = false := by
  intro c member
  rcases isIso.isDigit_or c member with digit | mark
  · exact Selector.isReserved_of_isDigit digit
  · rcases List.mem_pair.1 mark with rfl | rfl <;> decide

theorem Segment.trim_of_unreserved {value : Text} (plain : ∀ c ∈ value, Selector.isReserved c = false) :
    trim value = value :=
  (trimmed_of_noBlank fun c member => isBlank_of_unreserved (plain c member)).trim_eq_self

namespace Compiler

/-- Without overrides whatever can stand bare behind `aired:` is read as a range of dates. -/
theorem compile_aired {compiler : Compiler} (default : Registry.ofOverrides [] = .ok compiler.registry)
    {value : Text} (nonempty : value ≠ []) (plain : ∀ c ∈ value, Selector.isReserved c = false) :
    compiler.compile ("aired:".toList ++ value) =
      (⟨.timestamp, Field.timestamp.defaultRule, .date⟩ : FieldReader).convert
        ⟨"aired:".toList ++ value, some "aired".toList, value, false⟩ := by
  have checked : Selector.checkName "aired".toList = .ok "aired".toList := by decide
  have typeable := (Selector.checkName_eq_ok_iff.1 checked).1
  have registered : ⟨.timestamp, Field.timestamp.defaultRule, .date⟩ ∈ compiler.registry.readers := by
    obtain ⟨registry, same, readers⟩ := Registry.exists_default
    cases default.symm.trans same
    rw [readers]
    decide
  exact compiler.compile_bare registered typeable (by decide) nonempty plain

/-- Dates that are typed in their forms without blanks give the range between them. -/
theorem compile_aired_dates {compiler : Compiler} (default : Registry.ofOverrides [] = .ok compiler.registry)
    {value : Text} {reading : Range.Reading} {low high : Option Date}
    (plain : ∀ c ∈ value, Selector.isReserved c = false) (spells : reading.Spells ['.', '.'] value)
    (bounds : reading.Bounds Date.IsIso (· ≤ ·) low high) :
    compiler.compile ("aired:".toList ++ value) = .ok (.range ⟨.timestamp, low.map .date, high.map .date⟩) := by
  have nonempty : value ≠ [] := by
    rintro rfl
    obtain ⟨part, member⟩ := List.exists_mem_of_ne_nil _ reading.texts_ne_nil
    obtain ⟨d, isIso⟩ := bounds.exists_literal part member
    exact isIso.ne_nil (List.infix_nil.1 (spells.isInfix member))
  rw [compile_aired default nonempty plain]
  exact FieldReader.convert_of_dates ((Segment.trim_of_unreserved plain).symm ▸ spells) bounds

/-- Ranges of dates go round between search strings and documents: what is typed in the written forms of dates gives
the range of these dates, and its document shows the same forms.  In general a reader of dates gives a range for every
text that spells one in the forms of dates, and for no other text; it might only be misled by a date that two further
bytes follow. -/
theorem dates_round_trip :
    (∃ registry, Registry.ofOverrides [] = .ok registry ∧
      ∀ compiler : Compiler, compiler.registry = registry → ∀ a b : Date,
        let typed (value : Text) := compiler.compile ("aired:".toList ++ value)
        let between := a.writeIso ++ ['.', '.'] ++ b.writeIso
        (a ≤ b → typed between = .ok (.range ⟨.timestamp, some (.date a), some (.date b)⟩)) ∧
        (b < a → ∃ cause, typed between = .error (.conversion (some .timestamp) ("aired:".toList ++ between) cause)) ∧
        typed (a.writeIso ++ ['.', '.']) = .ok (.range ⟨.timestamp, some (.date a), none⟩) ∧
        typed (['.', '.'] ++ b.writeIso) = .ok (.range ⟨.timestamp, none, some (.date b)⟩) ∧
        typed a.writeIso = .ok (.range ⟨.timestamp, some (.date a), some (.date a)⟩)) ∧
    (∀ (field : Field) (low high : Option Date),
      (Query.range ⟨field, low.map .date, high.map .date⟩).toValue = .ok (Range.datesValue field low high)) ∧
    ∀ (field : Field) (rule : Rule) (segment : Segment),
      let reader : FieldReader := ⟨field, rule, .date⟩
      let spelled (literal : Text → Date → Prop) (query : Query) : Prop :=
        ∃ (reading : Range.Reading) (low high : Option Date), reading.Spells ['.', '.'] (trim segment.value) ∧
          reading.Bounds literal (· ≤ ·) low high ∧ query = .range ⟨field, low.map .date, high.map .date⟩
      (∀ query, spelled Date.IsIso query → reader.convert segment = .ok query) ∧
      (∀ query, reader.convert segment = .ok query →
        spelled (fun part d => Date.IsIso part d ∨ Date.IsOverlong part d) query) ∧
      ((∀ part d, part <:+: trim segment.value → Date.readIso? part = some d → Date.IsIso part d) →
        ∀ query, reader.convert segment = .ok query ↔ spelled Date.IsIso query) ∧
      ((∃ query, reader.convert segment = .ok query) ∨
        ∃ cause, reader.convert segment = .error (.conversion (some field) segment.rawText cause)) := by
  refine ⟨?_, ?_, ?_⟩
  · obtain ⟨registry, default, -⟩ := Registry.exists_default
    refine ⟨registry, default, ?_⟩
    rintro compiler rfl a b typed between
    have aIso := a.isIso_writeIso
    have bIso := b.isIso_writeIso
    have aPlain := aIso.unreserved
    have bPlain := bIso.unreserved
    have dotsPlain : ∀ c ∈ ['.', '.'], Selector.isReserved c = false := by
      intro c member
      rcases List.mem_pair.1 member with rfl | rfl <;> decide
    have openPlain := List.forall_mem_append.2 ⟨aPlain, dotsPlain⟩
    have betweenPlain := List.forall_mem_append.2 ⟨openPlain, bPlain⟩
    have betweenSpells : (Range.Reading.between a.writeIso b.writeIso).Spells ['.', '.'] between := by
      simpa [between] using @Range.Reading.Spells.between ['.', '.'] a.writeIso [] [] b.writeIso rfl rfl
    refine ⟨?_, ?_, ?_, ?_, ?_⟩
    · intro ordered
      exact compile_aired_dates default betweenPlain betweenSpells (.between aIso bIso ordered)
    · intro crossed
      rw [show typed between = _ from compile_aired default (by simp [between]) betweenPlain]
      exact FieldReader.convert_crossed_dates ((Segment.trim_of_unreserved betweenPlain).symm ▸ betweenSpells) aIso
        bIso crossed
    · refine compile_aired_dates default openPlain ?_ (.atLeast aIso)
      simpa using @Range.Reading.Spells.atLeast ['.', '.'] a.writeIso [] rfl
    · refine compile_aired_dates default (List.forall_mem_append.2 ⟨dotsPlain, bPlain⟩) ?_ (.atMost bIso)
      exact @Range.Reading.Spells.atMost ['.', '.'] [] b.writeIso rfl
    · exact compile_aired_dates default aPlain (.exact _) (.exact aIso)
  · intro field low high
    rw [Query.toValue, Range.toValue_dates]
  · intro field rule segment reader spelled
    have complete : ∀ query, spelled Date.IsIso query → reader.convert segment = .ok query := by
      rintro query ⟨reading, low, high, spells, bounds, rfl⟩
      exact FieldReader.convert_of_dates spells bounds
    refine ⟨complete, ?_, ?_, reader.convert_ok_or_conversion segment⟩
    · intro query success
      obtain ⟨reading, low, high, spells, bounds, rfl⟩ := FieldReader.exists_dates_of_convert success
      refine ⟨reading, low, high, spells, bounds.imp ?_ fun _ _ _ _ _ _ ordered => ordered, rfl⟩
      exact fun part _ d read => Date.readIso?_eq_some_iff.1 read
    · intro conforming query
      refine ⟨?_, complete query⟩
      intro success
      obtain ⟨reading, low, high, spells, bounds, rfl⟩ := FieldReader.exists_dates_of_convert success
      refine ⟨reading, low, high, spells, bounds.imp ?_ fun _ _ _ _ _ _ ordered => ordered, rfl⟩
      exact fun part member d read => conforming part d (spells.isInfix member) read

theorem dates_round_trip_leap_day :
    let leapDay : Date := ⟨2024, 2, 29, by decide⟩
    let reader : FieldReader := ⟨.timestamp, .ofFolded "d" [] [] rfl rfl, .date⟩
    let segment : Segment := ⟨"d:2024-02-29..".toList, some ['d'], "2024-02-29..".toList, false⟩
    (∃ compiler : Compiler, Registry.ofOverrides [] = .ok compiler.registry ∧
      compiler.compile "aired:2024-02-29..9999-12-31".toList =
        .ok (.range ⟨.timestamp, some (.date leapDay), some (.date ⟨9999, 12, 31, by decide⟩)⟩)) ∧
    (∀ part d, part <:+: trim segment.value → Date.readIso? part = some d → Date.IsIso part d) ∧
    ∀ query, reader.convert segment = .ok query ↔
      ∃ (reading : Range.Reading) (low high : Option Date), reading.Spells ['.', '.'] (trim segment.value) ∧
        reading.Bounds Date.IsIso (· ≤ ·) low high ∧ query = .range ⟨.timestamp, low.map .date, high.map .date⟩ := by
  intro leapDay reader segment
  have conforming : ∀ part d, part <:+: trim segment.value → Date.readIso? part = some d → Date.IsIso part d := by
    intro part d inside read
    have each : ∀ part ∈ (trim segment.value).tails.flatMap List.inits,
        (Date.readIso? part).all (fun d => d.writeIso = part) = true := by
      decide +kernel
    obtain ⟨rest, beginning, ending⟩ := List.infix_iff_prefix_suffix.1 inside
    have written := each part (List.mem_flatMap.2
      ⟨rest, (List.mem_tails _ _).2 ending, (List.mem_inits _ _).2 beginning⟩)
    rw [read, Option.all_some, decide_eq_true_eq] at written
    exact written ▸ d.isIso_writeIso
  obtain ⟨⟨registry, default, typed⟩, -, general⟩ := dates_round_trip
  refine ⟨⟨⟨registry, [.title], by decide, by decide⟩, default, ?_⟩, conforming, ?_⟩
  · let lastDay : Date := ⟨9999, 12, 31, by decide⟩
    have spelled : "aired:2024-02-29..9999-12-31".toList =
        "aired:".toList ++ (leapDay.writeIso ++ ['.', '.'] ++ lastDay.writeIso) := by
      decide
    rw [spelled]
    exact (typed _ rfl leapDay lastDay).1 (by decide)
  · exact (general .timestamp _ segment).2.2.1 conforming

end Compiler

end SearchQuery
