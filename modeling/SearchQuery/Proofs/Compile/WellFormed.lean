import SearchQuery.Proofs.Compile.Dispatch
import SearchQuery.Proofs.Reading.Values

/-!
# The shape of compiled queries

With the built-in readers, whatever their selectors are, a compiled query is a leaf or a single layer of
leaves, one for every segment.  A leaf looks for text in one field of text or in the fields that are searched
without a selector, or it spans minutes of duration or dates of broadcast.
-/

set_option autoImplicit false

namespace SearchQuery

open SearchQuery.Text

/-! ## Leaves -/

namespace Query

mutual

/-- What a query is made of, a combination being made of what its clauses are made of. -/
def leaves : Query → List Query
  | .bool must mustNot should => leavesOf must ++ leavesOf mustNot ++ leavesOf should
  | .text leaf => [.text leaf]
  | .range leaf => [.range leaf]
  | .foreign value => [.foreign value]

def leavesOf : List Query → List Query
  | [] => []
  | clause :: rest => leaves clause ++ leavesOf rest

end

theorem leaves_of_isLeaf {query : Query} (leaf : query.isLeaf = true) : query.leaves = [query] := by
  cases query with
  | text _ => rw [leaves]
  | range _ => rw [leaves]
  | bool _ _ _ => cases leaf
  | foreign _ => cases leaf

theorem leavesOf_of_isLeaf {clauses : List Query} (each : ∀ clause ∈ clauses, clause.isLeaf = true) :
    leavesOf clauses = clauses := by
  induction clauses with
  | nil => rw [leavesOf]
  | cons clause rest ih =>
    obtain ⟨first, later⟩ := List.forall_mem_cons.1 each
    rw [leavesOf, leaves_of_isLeaf first, ih later, List.singleton_append]

/-- A leaf, or leaves that have to match beside leaves that must not, unless a single one has to match. -/
inductive Flat : Query → Prop
  | leaf {query : Query} (isLeaf : query.isLeaf = true) : Flat query
  | bool {must mustNot : List Query} (mustLeaves : ∀ clause ∈ must, clause.isLeaf = true)
      (mustNotLeaves : ∀ clause ∈ mustNot, clause.isLeaf = true)
      (notLone : ¬(must.length = 1 ∧ mustNot = [])) : Flat (.bool must mustNot [])

end Query

/-- The range reaches over values that are written as bounds by `embed`, and its bounds do not cross. -/
def Range.Spans {α : Type} [LE α] (field : Field) (embed : α → Bound) (range : Range) : Prop :=
  ∃ low high : Option α, range = ⟨field, low.map embed, high.map embed⟩ ∧
    (low.isSome = true ∨ high.isSome = true) ∧ ∀ a ∈ low, ∀ b ∈ high, a ≤ b

/-- The fields that hold text. -/
def Field.textual : List Field :=
  [.channel, .topic, .title, .description]

/-- A leaf of a compiled query, where `searched` are the fields that are searched without a selector. -/
inductive Query.SoundLeaf (searched : List Field) : Query → Prop
  | text {leaf : TextMatch} (solid : allBlank leaf.text = false) (conjunctive : leaf.operator = .all)
      (fields : leaf.fields = searched ∨ ∃ field ∈ Field.textual, leaf.fields = [field]) :
      SoundLeaf searched (.text leaf)
  | duration {range : Range} (spans : range.Spans .duration fun minutes : Nat => .integer minutes) :
      SoundLeaf searched (.range range)
  | timestamp {range : Range} (spans : range.Spans .timestamp .date) :
      SoundLeaf searched (.range range)

theorem Query.SoundLeaf.isLeaf {searched : List Field} {leaf : Query} (sound : leaf.SoundLeaf searched) :
    leaf.isLeaf = true := by
  cases sound <;> rfl

/-! ## Reading leaves -/

theorem TextMatch.read_eq_ok {fields : List Field} (nonempty : fields ≠ []) (nodup : fields.Nodup)
    {operator : Operator} {text : Text} {leaf : TextMatch} (success : read fields operator text = .ok leaf) :
    allBlank text = false ∧ leaf = ⟨fields, text, operator⟩ := by
  rw [read_eq nonempty nodup] at success
  split at success
  next => cases success
  next solid =>
    cases success
    exact ⟨Bool.eq_false_iff.2 solid, rfl⟩

namespace Range

theorem WasRead.exists_map {α : Type} {bound : Text → Except ValueFault Bound} {embed : α → Bound}
    (embedded : ∀ text value, bound text = .ok value → ∃ a, value = embed a) {side : Option Bound}
    (wasRead : WasRead bound side) : ∃ embeds : Option α, side = embeds.map embed := by
  cases side with
  | none => exact ⟨none, rfl⟩
  | some value =>
    obtain ⟨part, reading⟩ := wasRead value rfl
    obtain ⟨a, rfl⟩ := embedded part value reading
    exact ⟨some a, rfl⟩

theorem spans_of_read {α : Type} [LE α] {bound : Text → Except ValueFault Bound} {embed : α → Bound}
    (embedded : ∀ text value, bound text = .ok value → ∃ a, value = embed a)
    (ordered : ∀ a b, (embed a).exceeds? (embed b) = some false → a ≤ b) {field : Field}
    {separator text : Text} {range : Range} (success : read field bound separator text = .ok range) :
    range.Spans field embed := by
  obtain ⟨rangeField, min, max⟩ := range
  obtain ⟨rfl, lowRead, highRead, bounded, uncrossed⟩ := read_eq_ok success
  obtain ⟨low, rfl⟩ := lowRead.exists_map embedded
  obtain ⟨high, rfl⟩ := highRead.exists_map embedded
  refine ⟨low, high, rfl, by simpa using bounded, ?_⟩
  intro a isLow b isHigh
  exact ordered a b (uncrossed _ (Option.mem_map_of_mem embed isLow) _
    (Option.mem_map_of_mem embed isHigh))

end Range

theorem Field.defaultKind_cases (field : Field) :
    (field ∈ textual ∧ field.defaultKind = .text .all) ∨ field = .duration ∨ field = .timestamp := by
  cases field <;> simp [textual, defaultKind]

theorem Query.soundLeaf_of_read {field : Field} {value : Text} {leaf : Query} (searched : List Field)
    (success : field.defaultKind.read field value = .ok leaf) : leaf.SoundLeaf searched := by
  rcases field.defaultKind_cases with ⟨isTextual, isText⟩ | rfl | rfl
  · rw [isText] at success
    obtain ⟨textMatch, reading, rfl⟩ := Outcome.map_eq_ok success
    obtain ⟨solid, rfl⟩ := TextMatch.read_eq_ok (by simp) (by simp) reading
    exact .text solid rfl (.inr ⟨field, isTextual, rfl⟩)
  · obtain ⟨range, reading, rfl⟩ := Outcome.map_eq_ok success
    refine .duration (Range.spans_of_read (fun _ _ => Bound.readDuration_eq_ok) ?_ reading)
    intro low high uncrossed
    simpa [Bound.exceeds?] using uncrossed
  · obtain ⟨range, reading, rfl⟩ := Outcome.map_eq_ok success
    refine .timestamp (Range.spans_of_read (fun _ _ => Bound.readDate_eq_ok) ?_ reading)
    intro low high uncrossed
    rw [← not_lt, ← Date.less_iff_lt, Bool.not_eq_true]
    exact Option.some.inj uncrossed

/-! ## Compiling -/

/-- Overrides change by which selectors a field is reached, not how its values are read. -/
theorem Registry.kind_of_ofOverrides {overrides : Overrides} {registry : Registry}
    (accepted : ofOverrides overrides = .ok registry) :
    ∀ reader ∈ registry.readers, reader.kind = reader.field.defaultKind := by
  rw [ofOverrides] at accepted
  cases built : Field.all.mapM (FieldReader.builtIn overrides) with
  | error e => rw [built] at accepted; cases accepted
  | ok readers =>
    rw [built] at accepted
    obtain ⟨-, sameReaders⟩ := make_eq_ok_iff.1 (Outcome.mapError_eq_ok accepted)
    rw [sameReaders]
    refine Selector.forall_of_mapM_ok (P := fun reader => reader.kind = reader.field.defaultKind) ?_ built
    intro field reader success
    rw [FieldReader.builtIn] at success
    cases overridden : field.defaultRule.override ((overrides.lookup field).getD ⟨none, none⟩) with
    | error e => rw [overridden] at success; cases success
    | ok rule =>
      rw [overridden] at success
      cases success
      rfl

namespace Compiler

theorem soundLeaf_of_clause {compiler : Compiler}
    (builtIn : ∀ reader ∈ compiler.registry.readers, reader.kind = reader.field.defaultKind)
    {segment : Segment} {leaf : Query} (success : compiler.clause segment = .ok leaf) :
    leaf.SoundLeaf compiler.defaultFields := by
  rw [clause] at success
  split at success
  next reader found =>
    have reading := Outcome.mapError_eq_ok success
    rw [builtIn reader (Registry.find?_eq_some_iff.1 found).1] at reading
    exact Query.soundLeaf_of_read _ reading
  next =>
    split at success
    next => cases success
    next =>
      split at success
      next textMatch reading =>
        cases success
        obtain ⟨solid, rfl⟩ := TextMatch.read_eq_ok compiler.nonempty compiler.nodup reading
        exact .text solid rfl (.inl rfl)
      next => cases success
      next => cases success

theorem exists_of_mem_gathered {clauses : List (Bool × Query)} {query : Query}
    (member : query ∈ kept clauses ++ negated clauses) : ∃ clause ∈ clauses, clause.2 = query := by
  rw [kept, negated, ← List.map_append] at member
  obtain ⟨clause, filtered, rfl⟩ := List.mem_map.1 member
  rcases List.mem_append.1 filtered with inKept | inNegated
  · exact ⟨clause, List.mem_of_mem_filter inKept, rfl⟩
  · exact ⟨clause, List.mem_of_mem_filter inNegated, rfl⟩

/-- Gathered leaves make a flat query of the same leaves. -/
theorem flat_of_gather {clauses : List (Bool × Query)} (nonempty : clauses ≠ [])
    (each : ∀ clause ∈ clauses, clause.2.isLeaf = true) {node : Query}
    (gathered : gather clauses = .ok node) :
    node.Flat ∧ node.leaves = kept clauses ++ negated clauses := by
  have isLeaf : ∀ query ∈ kept clauses ++ negated clauses, query.isLeaf = true := by
    intro query member
    obtain ⟨clause, inClauses, rfl⟩ := exists_of_mem_gathered member
    exact each clause inClauses
  obtain ⟨keptLeaves, negatedLeaves⟩ := List.forall_mem_append.1 isLeaf
  by_cases single : ∃ query, clauses = [(false, query)]
  · obtain ⟨query, rfl⟩ := single
    rw [gather_single] at gathered
    cases gathered
    have leaf : node.isLeaf = true := each _ List.mem_cons_self
    exact ⟨.leaf leaf, Query.leaves_of_isLeaf leaf⟩
  · rw [gather_eq_bool nonempty fun query equal => single ⟨query, equal⟩] at gathered
    cases gathered
    refine ⟨.bool keptLeaves negatedLeaves ?_, ?_⟩
    · rintro ⟨oneKept, noneNegated⟩
      exact single (exists_eq_single oneKept noneNegated)
    · rw [Query.leaves, Query.leavesOf_of_isLeaf keptLeaves, Query.leavesOf_of_isLeaf negatedLeaves,
        Query.leavesOf, List.append_nil]

theorem flat_of_compile {compiler : Compiler}
    (builtIn : ∀ reader ∈ compiler.registry.readers, reader.kind = reader.field.defaultKind)
    {query : Text} {node : Query} (compiled : compiler.compile query = .ok node) :
    node.Flat ∧ (∀ leaf ∈ node.leaves, leaf.SoundLeaf compiler.defaultFields) ∧
      ∃ segments, Segment.split query = .ok segments ∧ node.leaves.length = segments.length := by
  obtain ⟨segments, clauses, segmented, nonempty, marked, gathered⟩ := exists_of_compile_eq_ok compiled
  have clausesNonempty : clauses ≠ [] := (compileSegments_of_ok nonempty marked).1
  have sound : ∀ clause ∈ clauses, clause.2.SoundLeaf compiler.defaultFields := by
    refine Selector.forall_of_mapM_ok (P := fun clause => clause.2.SoundLeaf compiler.defaultFields) ?_
      marked
    intro segment clause success
    obtain ⟨leaf, clauseEquation, rfl⟩ := Outcome.map_eq_ok success
    exact soundLeaf_of_clause builtIn clauseEquation
  obtain ⟨flat, leaves⟩ := flat_of_gather clausesNonempty
    (fun clause member => (sound clause member).isLeaf) gathered
  refine ⟨flat, ?_, segments, segmented, ?_⟩
  · intro leaf member
    rw [leaves] at member
    obtain ⟨clause, inClauses, rfl⟩ := exists_of_mem_gathered member
    exact sound clause inClauses
  · rw [leaves, List.length_append, length_kept_add_length_negated]
    exact (Outcome.mapM_eq_ok_iff.1 marked).length_eq.symm

/-- Whatever the selectors of the built-in readers and the fields that are searched without one, a search string
that compiles gives a flat query of sound leaves, one for every segment. -/
theorem compileOnce_well_formed {overrides : Overrides} {registry : Registry} {defaultFields : List Field}
    {query : Text} {node : Query} (accepted : Registry.ofOverrides overrides = .ok registry)
    (compiled : compileOnce registry defaultFields query = .ok node) :
    node.Flat ∧ (∀ leaf ∈ node.leaves, leaf.SoundLeaf defaultFields.eraseDups) ∧
      ∃ segments, Segment.split query = .ok segments ∧ node.leaves.length = segments.length := by
  rw [← distinct_eq_eraseDups]
  by_cases empty : distinct defaultFields = []
  · rw [compileOnce, make, dif_pos empty] at compiled
    cases compiled
  · rw [compileOnce_eq_compile registry empty] at compiled
    exact flat_of_compile (Registry.kind_of_ofOverrides accepted) compiled

theorem compileOnce_well_formed_renamed_channel :
    let overrides : Overrides := [(.channel, ⟨some ["kanal".toList], none⟩)]
    let query := "kanal:arte krimi -dauer:30-1h30 @:..2024-02-29".toList
    ∃ registry node, Registry.ofOverrides overrides = .ok registry ∧
      compileOnce registry [.title, .topic, .title] query = .ok node ∧
      node.Flat ∧ node.leaves.length = 4 ∧ ∀ leaf ∈ node.leaves, leaf.SoundLeaf [.title, .topic] := by
  intro overrides query
  have segmented : Segment.split query = .ok [
      ⟨"kanal:arte".toList, some "kanal".toList, "arte".toList, false⟩,
      ⟨"krimi".toList, none, "krimi".toList, false⟩,
      ⟨"-dauer:30-1h30".toList, some "dauer".toList, "30-1h30".toList, true⟩,
      ⟨"@:..2024-02-29".toList, some "@".toList, "..2024-02-29".toList, false⟩] := by
    decide +kernel
  obtain ⟨registry, node, accepted, compiled⟩ : ∃ registry node,
      Registry.ofOverrides overrides = .ok registry ∧
      compileOnce registry [.title, .topic, .title] query = .ok node := by
    have succeeds : ((Registry.ofOverrides overrides).toOption.bind fun registry =>
        (compileOnce registry [.title, .topic, .title] query).toOption).isSome = true := by
      decide +kernel
    cases accepted : Registry.ofOverrides overrides with
    | error e => rw [accepted] at succeeds; cases succeeds
    | ok registry =>
      rw [accepted] at succeeds
      cases compiled : compileOnce registry [.title, .topic, .title] query with
      | error e => simp [Except.toOption, compiled] at succeeds
      | ok node => exact ⟨registry, node, rfl, compiled⟩
  obtain ⟨flat, sound, segments, alsoSegmented, count⟩ := compileOnce_well_formed accepted compiled
  cases segmented.symm.trans alsoSegmented
  exact ⟨registry, node, accepted, compiled, flat, count, sound⟩

end Compiler

end SearchQuery
