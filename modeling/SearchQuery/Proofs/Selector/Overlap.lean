import SearchQuery.Proofs.Selector.Spelling
import SearchQuery.Proofs.Text.FoldImages

/-!
# Overlapping rules

The search for a conflict between two rules decides exactly whether they overlap.  What it finds is a token of both
rules: the first character of a name is folded already, and so abbreviates every name that begins with it.
-/

set_option autoImplicit false

namespace SearchQuery.Rule

open SearchQuery.Text SearchQuery.Selector

/-- The first character of a name designates the name's field. -/
theorem designates_initial {rule : Rule} {c : Char} {rest : Text} (listed : c :: rest ∈ rule.names) :
    rule.designates [c] = true := by
  obtain ⟨typed, checked⟩ := rule.namesChecked (c :: rest) listed
  obtain ⟨-, spelled⟩ := checkName_eq_ok_iff.1 checked
  have inFold : c ∈ fold typed := by
    rw [← spelled]
    exact List.mem_cons_self
  have abbreviates : fold [c] <+: c :: rest := by
    rw [fold_cons, foldChar_of_mem_fold inFold]
    exact ⟨rest, rfl⟩
  exact designates_iff.2 ⟨by simp, .inr ⟨c :: rest, listed, abbreviates⟩⟩

theorem designates_symbol {rule : Rule} {c : Char} (listed : c ∈ rule.symbols) :
    rule.designates [c] = true :=
  designates_iff.2 ⟨by simp, .inl ⟨c, listed, rfl⟩⟩

theorem eq_cons_of_sharedInitial? {name other : Text} {c : Char} (shared : sharedInitial? name other = some c) :
    ∃ rest otherRest, name = c :: rest ∧ other = c :: otherRest := by
  cases name with
  | nil => cases shared
  | cons a rest =>
    cases other with
    | nil => cases shared
    | cons b otherRest =>
      rw [sharedInitial?] at shared
      split at shared
      next same =>
        cases shared
        exact ⟨rest, otherRest, rfl, by rw [same]⟩
      next => cases shared

/-- What the search for a conflict finds is a token of both rules. -/
theorem designates_of_conflict? {rule other : Rule} {c : Char} (found : rule.conflict? other = some c) :
    rule.designates [c] = true ∧ other.designates [c] = true := by
  simp only [conflict?, Option.orElse_eq_orElse, Option.orElse_eq_or, Option.or_eq_some_iff] at found
  rcases found with byName | ⟨-, bySymbol | ⟨-, byOtherSymbol⟩⟩
  · obtain ⟨name, listed, foundThere⟩ := List.exists_of_findSome?_eq_some byName
    obtain ⟨otherName, otherListed, shared⟩ := List.exists_of_findSome?_eq_some foundThere
    obtain ⟨rest, otherRest, rfl, rfl⟩ := eq_cons_of_sharedInitial? shared
    exact ⟨designates_initial listed, designates_initial otherListed⟩
  · have designated := List.find?_some bySymbol
    exact ⟨designates_symbol (List.mem_of_find?_eq_some bySymbol), designated⟩
  · have designated := List.find?_some byOtherSymbol
    exact ⟨designated, designates_symbol (List.mem_of_find?_eq_some byOtherSymbol)⟩

/-- Two rules conflict exactly if some token designates the fields of both, what is found is such a token, and it
does not matter from which of the rules one looks. -/
theorem conflict?_decides_overlap (rule other : Rule) :
    (rule.conflict? other = none ↔
      ¬∃ token, rule.designates token = true ∧ other.designates token = true) ∧
    (∀ c, rule.conflict? other = some c →
      rule.designates [c] = true ∧ other.designates [c] = true) ∧
    ((rule.conflict? other).isSome ↔ (other.conflict? rule).isSome) := by
  refine ⟨⟨?_, ?_⟩, fun c => designates_of_conflict?, ?_⟩
  · rintro apart ⟨token, designated, also⟩
    rw [designates_disjoint apart designated] at also
    cases also
  · intro disjoint
    cases found : rule.conflict? other with
    | none => rfl
    | some c => exact absurd ⟨[c], designates_of_conflict? found⟩ disjoint
  · rw [← Option.ne_none_iff_isSome, ← Option.ne_none_iff_isSome]
    exact not_congr conflict?_comm

end SearchQuery.Rule
