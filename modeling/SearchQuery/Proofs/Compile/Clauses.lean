import SearchQuery.Compile.Compiler
import SearchQuery.Proofs.Outcome

/-!
# Clauses of a compiled query

Compiling is done in two steps: every segment is turned into a marked clause, in input order and up to the
first segment that has none, and the clauses are gathered.  A lone clause that is not negated is the query;
otherwise the query is the combination of the kept and the negated clauses.
-/

set_option autoImplicit false

namespace SearchQuery

/-- Neither a combination nor a foreign value. -/
def Query.isLeaf : Query → Bool
  | .text _ => true
  | .range _ => true
  | _ => false

/-- The clauses that have to match, a query that is no combination being its own clause. -/
def Query.required : Query → List Query
  | .bool must _ _ => must
  | query => [query]

/-- The clauses that must not match. -/
def Query.excluded : Query → List Query
  | .bool _ mustNot _ => mustNot
  | _ => []

namespace Compiler

/-! ## Gathering -/

def kept (clauses : List (Bool × Query)) : List Query :=
  (clauses.filter (!·.1)).map (·.2)

def negated (clauses : List (Bool × Query)) : List Query :=
  (clauses.filter (·.1)).map (·.2)

theorem kept_append (first second : List (Bool × Query)) :
    kept (first ++ second) = kept first ++ kept second := by
  rw [kept, List.filter_append, List.map_append, kept, kept]

theorem negated_append (first second : List (Bool × Query)) :
    negated (first ++ second) = negated first ++ negated second := by
  rw [negated, List.filter_append, List.map_append, negated, negated]

theorem length_kept_add_length_negated (clauses : List (Bool × Query)) :
    (kept clauses).length + (negated clauses).length = clauses.length := by
  induction clauses with
  | nil => rfl
  | cons clause rest ih =>
    obtain ⟨mark, query⟩ := clause
    cases mark <;> simp [kept, negated] at ih ⊢ <;> omega

/-- One kept clause and no negated one are a single clause. -/
theorem exists_eq_single {clauses : List (Bool × Query)} (oneKept : (kept clauses).length = 1)
    (noneNegated : negated clauses = []) : ∃ query, clauses = [(false, query)] := by
  have size := length_kept_add_length_negated clauses
  rw [oneKept, noneNegated] at size
  obtain ⟨⟨mark, query⟩, rfl⟩ := List.length_eq_one_iff.1 size.symm
  cases mark with
  | false => exact ⟨query, rfl⟩
  | true => cases noneNegated

theorem gather_single (query : Query) : gather [(false, query)] = .ok query := rfl

theorem gather_eq_bool {clauses : List (Bool × Query)} (nonempty : clauses ≠ [])
    (notSingle : ∀ query, clauses ≠ [(false, query)]) :
    gather clauses = .ok (.bool (kept clauses) (negated clauses) []) := by
  have size := length_kept_add_length_negated clauses
  have positive := List.length_pos_iff.2 nonempty
  unfold gather
  dsimp only
  split
  next single keptSingle noneNegated =>
    have oneKept : (kept clauses).length = 1 := by rw [kept, keptSingle, List.length_singleton]
    obtain ⟨query, equal⟩ := exists_eq_single oneKept noneNegated
    exact absurd equal (notSingle query)
  next =>
    rw [← kept, ← negated, Query.makeBool, if_neg]
    intro allEmpty
    simp only [Bool.and_eq_true, List.isEmpty_iff] at allEmpty
    rw [allEmpty.1.1, allEmpty.1.2] at size
    exact absurd size.symm (Nat.ne_of_gt positive)

/-- What gathered leaves require and exclude are the kept and the negated ones. -/
theorem gather_eq_ok {clauses : List (Bool × Query)} (nonempty : clauses ≠ [])
    (leaves : ∀ clause ∈ clauses, clause.2.isLeaf = true) :
    ∃ query, gather clauses = .ok query ∧ query.required = kept clauses ∧
      query.excluded = negated clauses := by
  by_cases single : ∃ query, clauses = [(false, query)]
  · obtain ⟨query, rfl⟩ := single
    have leaf : query.isLeaf = true := leaves (false, query) List.mem_cons_self
    refine ⟨query, gather_single query, ?_⟩
    cases query with
    | text _ => exact ⟨rfl, rfl⟩
    | range _ => exact ⟨rfl, rfl⟩
    | bool _ _ _ => cases leaf
    | foreign _ => cases leaf
  · refine ⟨_, gather_eq_bool nonempty ?_, rfl, rfl⟩
    intro query equal
    exact single ⟨query, equal⟩

/-! ## Clauses of segments -/

/-- The clause of a segment with its negation mark. -/
def markedClause (compiler : Compiler) (segment : Segment) : Except CompileError (Bool × Query) :=
  (compiler.clause segment).map fun query => (segment.negated, query)

theorem compileSegments_eq (compiler : Compiler) (segments : List Segment) :
    compiler.compileSegments segments =
      segments.mapM compiler.markedClause >>= fun clauses => (gather clauses).mapError .fault := rfl

theorem isLeaf_of_read {field : Field} {kind : ValueKind} {value : Text} {query : Query}
    (success : kind.read field value = .ok query) : query.isLeaf = true := by
  cases kind with
  | text operator =>
    obtain ⟨leaf, -, rfl⟩ := Outcome.map_eq_ok success
    rfl
  | number form =>
    obtain ⟨leaf, -, rfl⟩ := Outcome.map_eq_ok success
    rfl
  | duration =>
    obtain ⟨leaf, -, rfl⟩ := Outcome.map_eq_ok success
    rfl
  | date =>
    obtain ⟨leaf, -, rfl⟩ := Outcome.map_eq_ok success
    rfl

theorem isLeaf_of_clause {compiler : Compiler} {segment : Segment} {query : Query}
    (success : compiler.clause segment = .ok query) : query.isLeaf = true := by
  rw [clause] at success
  split at success
  next reader _ => exact isLeaf_of_read (Outcome.mapError_eq_ok success)
  next =>
    split at success
    next => cases success
    next =>
      split at success
      next =>
        cases success
        rfl
      next => cases success
      next => cases success

theorem compile_of_split {query : Text} {segments : List Segment} (compiler : Compiler)
    (success : Segment.split query = .ok segments) (nonempty : segments ≠ []) :
    compiler.compile query = compiler.compileSegments segments := by
  rw [compile, success]
  cases segments with
  | nil => exact absurd rfl nonempty
  | cons segment more => rfl

theorem exists_of_compile_eq_ok {compiler : Compiler} {query : Text} {node : Query}
    (success : compiler.compile query = .ok node) :
    ∃ segments clauses, Segment.split query = .ok segments ∧ segments ≠ [] ∧
      segments.mapM compiler.markedClause = .ok clauses ∧ gather clauses = .ok node := by
  rw [compile] at success
  split at success
  next => cases success
  next => cases success
  next segments nonempty segmented =>
    rw [compileSegments_eq] at success
    cases marked : segments.mapM compiler.markedClause with
    | error e => rw [marked] at success; cases success
    | ok clauses =>
      rw [marked] at success
      exact ⟨segments, clauses, segmented, nonempty, marked, Outcome.mapError_eq_ok success⟩

theorem compileSegments_of_error {compiler : Compiler} {segments : List Segment} {e : CompileError}
    (failure : segments.mapM compiler.markedClause = .error e) :
    compiler.compileSegments segments = .error e := by
  rw [compileSegments_eq, failure]
  rfl

theorem compileSegments_of_ok {compiler : Compiler} {segments : List Segment}
    {clauses : List (Bool × Query)} (nonempty : segments ≠ [])
    (success : segments.mapM compiler.markedClause = .ok clauses) :
    clauses ≠ [] ∧ ∃ query, compiler.compileSegments segments = .ok query ∧
      query.required = kept clauses ∧ query.excluded = negated clauses := by
  have clausesNonempty : clauses ≠ [] := by
    rintro rfl
    cases Outcome.mapM_eq_ok_iff.1 success
    exact nonempty rfl
  have leaves : ∀ clause ∈ clauses, clause.2.isLeaf = true := by
    refine Selector.forall_of_mapM_ok (P := fun clause => clause.2.isLeaf = true) ?_ success
    intro segment clause marked
    obtain ⟨query, clauseEquation, rfl⟩ := Outcome.map_eq_ok marked
    exact isLeaf_of_clause clauseEquation
  obtain ⟨query, gathered, required, excluded⟩ := gather_eq_ok clausesNonempty leaves
  refine ⟨clausesNonempty, query, ?_, required, excluded⟩
  rw [compileSegments_eq, success]
  change (gather clauses).mapError CompileError.fault = _
  rw [gathered]
  rfl

/-- A search string with a single segment that is not negated compiles to the clause of that segment. -/
theorem compile_of_single {query : Text} {segment : Segment} (compiler : Compiler)
    (success : Segment.split query = .ok [segment]) (kept : segment.negated = false) :
    compiler.compile query = compiler.clause segment := by
  rw [compiler.compile_of_split success (by simp), compileSegments_eq, List.mapM_cons, markedClause,
    kept]
  cases compiler.clause segment with
  | error e => rfl
  | ok query => rfl

end Compiler

end SearchQuery
