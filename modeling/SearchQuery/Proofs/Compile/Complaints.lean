import SearchQuery.Proofs.Compile.Dispatch
import SearchQuery.Proofs.Reading.Values
import SearchQuery.Proofs.Segment.Place

/-!
# Complaints about search strings

Compiling gives a query or one of four complaints: that the search string is blank, that it cannot be split, or
that its first segment without a clause has an unknown selector or a value that cannot be read.  The last two
name the segment by its raw text, and a value that cannot be read is reported for the field whose reader was
asked.
-/

set_option autoImplicit false

namespace SearchQuery

open SearchQuery.Text

theorem Segment.split_eq_nil_iff {query : Text} : split query = .ok [] ↔ allBlank query = true := by
  constructor
  · intro success
    by_contra solid
    exact split_ne_nil (Bool.eq_false_iff.2 solid) success rfl
  · intro blank
    rw [split, trim_eq_nil_iff.2 blank]
    rfl

theorem Segment.rawText_isInfix {query : Text} {segments : List Segment}
    (success : split query = .ok segments) {segment : Segment} (member : segment ∈ segments) :
    segment.rawText <:+: query := by
  obtain ⟨before, after, rfl⟩ := List.append_of_mem member
  obtain ⟨lead, front, stretch, back, tail, setting, rfl, rfl, ⟨earlier, precedes, rfl⟩, later, follows,
    rfl⟩ := exists_setting success
  exact ⟨_, _, (setting.standsBetween precedes follows).spelled.symm⟩

theorem CompileError.ofValue_eq_conversion {fault : ValueFault}
    (comparable : fault ≠ .invalid .incomparableBounds) (field : Option Field) (rawText : Text) :
    ofValue field rawText fault = .conversion field rawText fault := by
  rw [ofValue.eq_def]
  split
  next => exact absurd rfl comparable
  next => rfl

theorem FieldReader.convert_eq_error {reader : FieldReader} {segment : Segment} {e : CompileError}
    (failure : reader.convert segment = .error e) :
    ∃ cause, e = .conversion (some reader.field) segment.rawText cause := by
  rw [convert] at failure
  cases reading : reader.kind.read reader.field segment.value with
  | ok query => rw [reading] at failure; cases failure
  | error fault =>
    rw [reading] at failure
    cases failure
    have comparable : fault ≠ .invalid .incomparableBounds := by
      rintro rfl
      exact ValueKind.read_ne_incomparable _ _ _ reading
    exact ⟨fault, CompileError.ofValue_eq_conversion comparable _ _⟩

/-- A value that gives no query gives a complaint about the value. -/
theorem FieldReader.convert_ok_or_conversion (reader : FieldReader) (segment : Segment) :
    (∃ query, reader.convert segment = .ok query) ∨
      ∃ cause, reader.convert segment = .error (.conversion (some reader.field) segment.rawText cause) := by
  cases outcome : reader.convert segment with
  | ok query => exact .inl ⟨query, rfl⟩
  | error e =>
    obtain ⟨cause, rfl⟩ := convert_eq_error outcome
    exact .inr ⟨cause, rfl⟩

namespace Compiler

/-- What is reported about a segment that has no clause. -/
inductive Reported (registry : Registry) (segment : Segment) : CompileError → Prop
  | unknown {selector : Text} (selected : segment.selector = some selector)
      (unclaimed : ∀ reader ∈ registry.readers, reader.rule.designates selector = false) :
      Reported registry segment (.unknownSelector selector segment.rawText)
  | rejected {selector : Text} {reader : FieldReader} (cause : ValueFault)
      (selected : segment.selector = some selector) (registered : reader ∈ registry.readers)
      (designated : reader.rule.designates selector = true) :
      Reported registry segment (.conversion (some reader.field) segment.rawText cause)
  | blank (cause : ValueFault) (unselected : segment.selector = none) :
      Reported registry segment (.conversion none segment.rawText cause)

theorem Reported.unknownSelector_iff {registry : Registry} {segment : Segment} {e : CompileError}
    (reported : Reported registry segment e) :
    (∃ selector rawText, e = .unknownSelector selector rawText) ↔
      ∃ selector, segment.selector = some selector ∧
        ∀ reader ∈ registry.readers, reader.rule.designates selector = false := by
  cases reported with
  | @unknown selector selected unclaimed =>
    exact ⟨fun _ => ⟨selector, selected, unclaimed⟩, fun _ => ⟨selector, _, rfl⟩⟩
  | rejected cause selected registered designated =>
    constructor
    · rintro ⟨_, _, different⟩
      cases different
    · rintro ⟨selector, alsoSelected, unclaimed⟩
      cases selected.symm.trans alsoSelected
      rw [unclaimed _ registered] at designated
      cases designated
  | blank cause unselected =>
    constructor
    · rintro ⟨_, _, different⟩
      cases different
    · rintro ⟨selector, selected, -⟩
      cases unselected.symm.trans selected

theorem Reported.conversion_none_iff {registry : Registry} {segment : Segment} {e : CompileError}
    (reported : Reported registry segment e) :
    (∃ rawText cause, e = .conversion none rawText cause) ↔ segment.selector = none := by
  cases reported with
  | unknown selected _ => simp [selected]
  | rejected cause selected _ _ => simp [selected]
  | blank cause unselected => simp [unselected]

theorem reported_of_clause {compiler : Compiler} {segment : Segment} {e : CompileError}
    (failure : compiler.clause segment = .error e) : Reported compiler.registry segment e := by
  rw [clause] at failure
  cases found : compiler.registry.find? segment.selector with
  | some reader =>
    rw [found] at failure
    obtain ⟨registered, claimed⟩ := Registry.find?_eq_some_iff.1 found
    obtain ⟨cause, rfl⟩ := FieldReader.convert_eq_error failure
    cases selected : segment.selector with
    | none => rw [selected] at claimed; cases claimed
    | some selector =>
      rw [selected] at claimed
      exact .rejected cause selected registered claimed
  | none =>
    rw [found] at failure
    cases selected : segment.selector with
    | some selector =>
      rw [selected] at failure found
      cases failure
      refine .unknown selected fun reader registered => ?_
      exact Bool.eq_false_iff.2 (List.find?_eq_none.1 found reader registered)
    | none =>
      rw [selected, TextMatch.read_eq compiler.nonempty compiler.nodup] at failure
      cases blank : allBlank segment.value with
      | false => simp [blank] at failure
      | true =>
        simp only [blank, if_true] at failure
        cases failure
        exact .blank .textRequired selected

/-- What compiling a search string comes to: it cannot be split, it is blank, all of its segments have clauses,
or the first of them that has none decides. -/
inductive Verdict (compiler : Compiler) (query : Text) : Except CompileError Query → Prop
  | malformed {e : SyntaxError} (failure : Segment.split query = .error e) :
      Verdict compiler query (.error (.malformed e))
  | empty (blank : allBlank query = true) : Verdict compiler query (.error (.empty query))
  | compiled {segments : List Segment} {node : Query} (segmented : Segment.split query = .ok segments)
      (clauses : ∀ segment ∈ segments, ∃ clause, compiler.clause segment = .ok clause) :
      Verdict compiler query (.ok node)
  | rejected {before after : List Segment} {segment : Segment} {e : CompileError}
      (segmented : Segment.split query = .ok (before ++ segment :: after))
      (earlier : ∀ segment ∈ before, ∃ clause, compiler.clause segment = .ok clause)
      (failure : compiler.clause segment = .error e) : Verdict compiler query (.error e)

theorem exists_clause_of_markedClause {compiler : Compiler} {segment : Segment} {marked : Bool × Query}
    (success : compiler.markedClause segment = .ok marked) :
    ∃ clause, compiler.clause segment = .ok clause := by
  obtain ⟨clause, clauseEquation, -⟩ := Outcome.map_eq_ok success
  exact ⟨clause, clauseEquation⟩

theorem verdict (compiler : Compiler) (query : Text) :
    Verdict compiler query (compiler.compile query) := by
  cases segmented : Segment.split query with
  | error e =>
    rw [compile, segmented]
    exact .malformed segmented
  | ok segments =>
    by_cases none : segments = []
    · subst none
      rw [compile, segmented]
      exact .empty (Segment.split_eq_nil_iff.1 segmented)
    · rw [compiler.compile_of_split segmented none]
      cases outcome : segments.mapM compiler.markedClause with
      | ok clauses =>
        obtain ⟨-, node, success, -⟩ := compileSegments_of_ok none outcome
        rw [success]
        refine .compiled segmented fun segment member => ?_
        obtain ⟨marked, -, step⟩ := Outcome.mem_of_mapM_eq_ok outcome member
        exact exists_clause_of_markedClause step
      | error e =>
        rw [compileSegments_of_error outcome]
        obtain ⟨before, segment, after, rfl, early, step⟩ := Outcome.mapM_eq_error_iff.1 outcome
        refine .rejected segmented (fun earlier member => ?_) (Outcome.map_eq_error step)
        obtain ⟨marked, success⟩ := early earlier member
        exact exists_clause_of_markedClause success

theorem compile_eq_malformed_iff {compiler : Compiler} {query : Text} {e : SyntaxError} :
    compiler.compile query = .error (.malformed e) ↔ Segment.split query = .error e := by
  constructor
  · intro failure
    have verdict := compiler.verdict query
    rw [failure] at verdict
    cases verdict with
    | malformed unsplit => exact unsplit
    | rejected _ _ failed => cases reported_of_clause failed
  · intro unsplit
    rw [compile, unsplit]

theorem compile_eq_empty_iff {compiler : Compiler} {query text : Text} :
    compiler.compile query = .error (.empty text) ↔ text = query ∧ allBlank query = true := by
  constructor
  · intro failure
    have verdict := compiler.verdict query
    rw [failure] at verdict
    cases verdict with
    | empty blank => exact ⟨rfl, blank⟩
    | rejected _ _ failed => cases reported_of_clause failed
  · rintro ⟨rfl, blank⟩
    rw [compile, Segment.split_eq_nil_iff.2 blank]

theorem compile_ne_fault {compiler : Compiler} {query : Text} (fault : QueryFault) :
    compiler.compile query ≠ .error (.fault fault) := by
  intro failure
  have verdict := compiler.verdict query
  rw [failure] at verdict
  cases verdict with
  | rejected _ _ failed => cases reported_of_clause failed

theorem compile_of_segments {compiler : Compiler} {query : Text} {segments : List Segment}
    (segmented : Segment.split query = .ok segments) (nonempty : segments ≠ []) :
    ((∃ node, compiler.compile query = .ok node) ∧
      ∀ segment ∈ segments, ∃ clause, compiler.clause segment = .ok clause) ∨
    ∃ before segment after e, segments = before ++ segment :: after ∧
      (∀ earlier ∈ before, ∃ clause, compiler.clause earlier = .ok clause) ∧
      compiler.clause segment = .error e ∧ compiler.compile query = .error e := by
  have verdict := compiler.verdict query
  generalize compiler.compile query = outcome at verdict ⊢
  cases verdict with
  | malformed unsplit => cases unsplit.symm.trans segmented
  | empty blank =>
    cases (Segment.split_eq_nil_iff.2 blank).symm.trans segmented
    exact absurd rfl nonempty
  | compiled resegmented clauses =>
    cases resegmented.symm.trans segmented
    exact .inl ⟨⟨_, rfl⟩, clauses⟩
  | rejected resegmented early failed =>
    cases resegmented.symm.trans segmented
    exact .inr ⟨_, _, _, _, rfl, early, failed, rfl⟩

theorem exists_make (registry : Registry) {defaultFields : List Field} (nonempty : defaultFields ≠ []) :
    ∃ compiler, make registry defaultFields = .ok compiler ∧ compiler.registry = registry := by
  have distinctNonempty : distinct defaultFields ≠ [] := mt distinct_eq_nil_iff.1 nonempty
  refine ⟨⟨registry, distinct defaultFields, distinctNonempty, nodup_distinct defaultFields⟩, ?_, rfl⟩
  rw [make, dif_neg distinctNonempty]

/-- The compiler of a registry and of some fields that are searched without a selector gives a query or
complains: exactly when the search string is blank, exactly when it cannot be split, and otherwise about the
first segment without a clause.  That complaint is about an unknown selector exactly when no rule is designated
by it, and otherwise about the value, for the field whose reader claims the segment or for no field if it has no
selector. -/
theorem compile_classified (registry : Registry) {defaultFields : List Field}
    (nonempty : defaultFields ≠ []) (query : Text) :
    ∃ compiler, make registry defaultFields = .ok compiler ∧
      (∀ text, compiler.compile query = .error (.empty text) ↔ text = query ∧ allBlank query = true) ∧
      (∀ e, compiler.compile query = .error (.malformed e) ↔ Segment.split query = .error e) ∧
      (∀ fault, compiler.compile query ≠ .error (.fault fault)) ∧
      ∀ segments, Segment.split query = .ok segments → segments ≠ [] →
        ((∃ node, compiler.compile query = .ok node) ∧
          ∀ segment ∈ segments, ∃ clause, compiler.clause segment = .ok clause) ∨
        ∃ before segment after e, segments = before ++ segment :: after ∧
          (∀ earlier ∈ before, ∃ clause, compiler.clause earlier = .ok clause) ∧
          compiler.clause segment = .error e ∧ compiler.compile query = .error e ∧
          Reported registry segment e ∧ segment.rawText <:+: query ∧
          ((∃ selector rawText, e = .unknownSelector selector rawText) ↔
            ∃ selector, segment.selector = some selector ∧
              ∀ reader ∈ registry.readers, reader.rule.designates selector = false) ∧
          ((∃ rawText cause, e = .conversion none rawText cause) ↔ segment.selector = none) := by
  obtain ⟨compiler, made, rfl⟩ := exists_make registry nonempty
  refine ⟨compiler, made, fun _ => compile_eq_empty_iff, fun _ => compile_eq_malformed_iff,
    compile_ne_fault, ?_⟩
  intro segments segmented notBlank
  rcases compile_of_segments segmented notBlank with
    compiled | ⟨before, segment, after, e, rfl, early, failed, failure⟩
  · exact .inl compiled
  · have reported := reported_of_clause failed
    exact .inr ⟨before, segment, after, e, rfl, early, failed, failure, reported,
      Segment.rawText_isInfix segmented (by simp), reported.unknownSelector_iff,
      reported.conversion_none_iff⟩

theorem compile_classified_crossed_bounds :
    let registry : Registry := ⟨[⟨.duration, .ofFolded "d" [] [] rfl rfl, .number .duration⟩], rfl⟩
    [Field.title, .title] ≠ [] ∧ ∃ compiler, make registry [.title, .title] = .ok compiler ∧
      ∃ cause, compiler.compile " d:9-5 ".toList =
        .error (.conversion (some .duration) "d:9-5".toList cause) := by
  intro registry
  refine ⟨by simp, ?_⟩
  obtain ⟨compiler, made, -, -, -, decided⟩ :=
    @compile_classified registry [.title, .title] (by simp) " d:9-5 ".toList
  cases made
  have segmented : Segment.split " d:9-5 ".toList =
      .ok [⟨"d:9-5".toList, some "d".toList, "9-5".toList, false⟩] := by
    decide +kernel
  refine ⟨_, rfl, ?_⟩
  rcases decided _ segmented (by simp) with
    ⟨-, clauses⟩ | ⟨before, segment, after, e, parted, -, -, failure, reported, -⟩
  · obtain ⟨clause, success⟩ := clauses _ List.mem_cons_self
    cases success
  · obtain ⟨rfl, rest⟩ | ⟨_, -, rest⟩ := List.cons_eq_append_iff.1 parted
    · cases rest
      cases reported with
      | unknown selected unclaimed =>
        cases selected
        cases unclaimed _ List.mem_cons_self
      | rejected cause selected registered designated =>
        cases List.mem_singleton.1 registered
        exact ⟨cause, failure⟩
      | blank cause unselected => cases unselected
    · simp at rest

end Compiler

end SearchQuery
