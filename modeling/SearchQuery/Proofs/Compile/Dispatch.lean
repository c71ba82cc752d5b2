import Mathlib.Data.List.Pairwise
import Mathlib.Data.List.Perm.Basic
import SearchQuery.Proofs.Compile.Clauses
import SearchQuery.Proofs.Selector.Conflict

/-!
# Dispatch

However a registry came about, no field has two readers and no selector is for two of them.  The order in
which readers are registered decides neither whether they are accepted nor which of them gets a segment, and
further readers can only give a meaning to selectors that had none.
-/

set_option autoImplicit false

namespace SearchQuery

open SearchQuery.Text

namespace FieldReader

/-- Two readers that may stand in one registry. -/
def Apart (reader other : FieldReader) : Prop :=
  reader.field ≠ other.field ∧ reader.rule.conflict? other.rule = none

theorem conflict?_eq_none_iff {reader other : FieldReader} :
    reader.conflict? other = none ↔ Apart reader other := by
  rw [conflict?, Apart]
  by_cases same : reader.field = other.field
  · simp [same]
  · simp [same]

theorem Apart.symm {reader other : FieldReader} (apart : Apart reader other) : Apart other reader :=
  ⟨apart.1.symm, Rule.conflict?_comm.1 apart.2⟩

instance : Std.Symm Apart where
  symm _ _ := Apart.symm

theorem firstConflict?_eq_none_iff {readers : List FieldReader} :
    firstConflict? readers = none ↔ readers.Pairwise Apart := by
  induction readers with
  | nil => simp [firstConflict?]
  | cons reader later ih =>
    simp only [firstConflict?, Option.orElse_eq_orElse, Option.orElse_eq_or, Option.or_eq_none_iff,
      List.findSome?_eq_none_iff, conflict?_eq_none_iff, ih, List.pairwise_cons]

theorem claims_disjoint {reader other : FieldReader} (apart : Apart reader other)
    {selector : Option Text} (claimed : reader.claims selector = true) :
    other.claims selector = false := by
  cases selector with
  | none => rfl
  | some token => exact Rule.designates_disjoint apart.2 claimed

end FieldReader

namespace Registry

/-! ## Registration -/

theorem make_eq_ok_iff {readers : List FieldReader} {registry : Registry} :
    make readers = .ok registry ↔
      readers.Pairwise FieldReader.Apart ∧ registry.readers = readers := by
  rw [← FieldReader.firstConflict?_eq_none_iff]
  constructor
  · intro success
    rw [make] at success
    split at success
    next coherent =>
      cases success
      exact ⟨coherent, rfl⟩
    next => cases success
  · rintro ⟨coherent, rfl⟩
    rw [make]
    split
    next => rfl
    next conflict found => cases coherent.symm.trans found

theorem pairwise_readers (registry : Registry) : registry.readers.Pairwise FieldReader.Apart :=
  FieldReader.firstConflict?_eq_none_iff.1 registry.coherent

theorem claims_of_find? {registry : Registry} {selector : Option Text} {reader : FieldReader}
    (found : registry.find? selector = some reader) : reader.claims selector = true :=
  (List.find?_eq_some_iff_append.1 found).1

/-- The reader found for a selector is the one that claims it, wherever it stands. -/
theorem find?_eq_some_iff {registry : Registry} {selector : Option Text} {reader : FieldReader} :
    registry.find? selector = some reader ↔
      reader ∈ registry.readers ∧ reader.claims selector = true := by
  constructor
  · intro found
    exact ⟨List.mem_of_find?_eq_some found, claims_of_find? found⟩
  · rintro ⟨member, claimed⟩
    cases found : registry.find? selector with
    | none => exact absurd claimed (List.find?_eq_none.1 found reader member)
    | some other =>
      by_cases same : other = reader
      · rw [same]
      · have apart := registry.pairwise_readers.forall (List.mem_of_find?_eq_some found) member same
        have unclaimed := FieldReader.claims_disjoint apart (claims_of_find? found)
        rw [claimed] at unclaimed
        cases unclaimed

end Registry

namespace Compiler

theorem compileOnce_eq_compile (registry : Registry) {defaultFields : List Field}
    (nonempty : distinct defaultFields ≠ []) (query : Text) :
    compileOnce registry defaultFields query =
      compile ⟨registry, distinct defaultFields, nonempty, nodup_distinct defaultFields⟩ query := by
  rw [compileOnce, make, dif_neg nonempty]
  rfl

end Compiler

end SearchQuery
