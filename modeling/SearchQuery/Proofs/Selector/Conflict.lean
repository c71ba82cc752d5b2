import SearchQuery.Proofs.Text.Fold
import SearchQuery.Selector.Rule

/-!
# Conflicts between rules

The search for a conflict looks at the first characters of names and at symbols only.  When it finds none,
no token whatever designates the fields of both rules, and it does not matter from which of the two rules one
looks.
-/

set_option autoImplicit false

namespace SearchQuery.Rule

open SearchQuery.Text

theorem designates_iff {rule : Rule} {token : Text} :
    rule.designates token = true ↔
      token ≠ [] ∧ ((∃ symbol ∈ rule.symbols, [symbol] = token) ∨
        ∃ name ∈ rule.names, fold token <+: name) := by
  simp only [designates, Bool.and_eq_true, Bool.not_eq_true', List.isEmpty_eq_false_iff,
    Bool.or_eq_true, List.any_eq_true, decide_eq_true_eq, List.isPrefixOf_iff_prefix]

theorem sharedInitial?_comm (name other : Text) : sharedInitial? name other = sharedInitial? other name := by
  cases name with
  | nil => cases other <;> rfl
  | cons a name =>
    cases other with
    | nil => rfl
    | cons b other =>
      by_cases same : a = b
      · subst same
        rfl
      · rw [sharedInitial?, sharedInitial?, if_neg same, if_neg (Ne.symm same)]

/-- Two texts that both go on from one text that is not empty begin alike. -/
theorem sharedInitial?_of_isPrefix {beginning name other : Text} (nonempty : beginning ≠ [])
    (ofName : beginning <+: name) (ofOther : beginning <+: other) :
    sharedInitial? name other ≠ none := by
  obtain ⟨c, rest, rfl⟩ := List.exists_cons_of_ne_nil nonempty
  obtain ⟨nameRest, rfl⟩ := ofName
  obtain ⟨otherRest, rfl⟩ := ofOther
  simp [sharedInitial?]

theorem conflict?_eq_none_iff {rule other : Rule} :
    rule.conflict? other = none ↔
      (∀ name ∈ rule.names, ∀ otherName ∈ other.names, sharedInitial? name otherName = none) ∧
        (∀ symbol ∈ rule.symbols, other.designates [symbol] = false) ∧
        ∀ symbol ∈ other.symbols, rule.designates [symbol] = false := by
  simp only [conflict?, Option.orElse_eq_orElse, Option.orElse_eq_or, Option.or_eq_none_iff,
    List.findSome?_eq_none_iff, List.find?_eq_none, Bool.not_eq_true]

theorem conflict?_comm {rule other : Rule} :
    rule.conflict? other = none ↔ other.conflict? rule = none := by
  have turned : ∀ {rule other : Rule}, rule.conflict? other = none → other.conflict? rule = none := by
    intro rule other apart
    obtain ⟨names, symbols, otherSymbols⟩ := conflict?_eq_none_iff.1 apart
    refine conflict?_eq_none_iff.2 ⟨?_, otherSymbols, symbols⟩
    intro otherName otherMember name member
    rw [sharedInitial?_comm]
    exact names name member otherName otherMember
  exact ⟨turned, turned⟩

/-- Rules without a conflict have no token in common. -/
theorem designates_disjoint {rule other : Rule} (apart : rule.conflict? other = none) {token : Text}
    (designated : rule.designates token = true) : other.designates token = false := by
  obtain ⟨names, symbols, otherSymbols⟩ := conflict?_eq_none_iff.1 apart
  rw [Bool.eq_false_iff]
  intro also
  obtain ⟨nonempty, ⟨symbol, member, rfl⟩ | ⟨name, member, beginning⟩⟩ := designates_iff.1 designated
  · rw [symbols symbol member] at also
    cases also
  · obtain ⟨-, ⟨symbol, otherMember, rfl⟩ | ⟨otherName, otherMember, otherBeginning⟩⟩ :=
      designates_iff.1 also
    · rw [otherSymbols symbol otherMember] at designated
      cases designated
    · exact sharedInitial?_of_isPrefix (fold_ne_nil nonempty) beginning otherBeginning
        (names name member otherName otherMember)

end SearchQuery.Rule
