import SearchQuery.Proofs.Outcome
import SearchQuery.Proofs.Selector.Conflict

/-!
# Spellings

The checks of names and symbols refuse exactly the texts that could not be typed as selectors.  A rule made
from checked spellings is designated by every symbol and by every beginning of a name, as they were given.
-/

set_option autoImplicit false

namespace SearchQuery

open SearchQuery.Text

namespace Selector

/-- Texts that are selectors when they are typed plainly. -/
structure Typeable (token : Text) : Prop where
  nonempty : token ≠ []
  noDash : token.head? ≠ some '-'
  plain : ∀ c ∈ token, isReserved c = false

theorem checkName_eq_ok_iff {name folded : Text} :
    checkName name = .ok folded ↔ Typeable name ∧ folded = fold name := by
  rw [checkName]
  constructor
  · intro success
    split at success
    next => cases success
    next nonempty =>
      split at success
      next => cases success
      next noDash =>
        split at success
        next => cases success
        next plain =>
          cases success
          refine ⟨⟨?_, noDash, ?_⟩, rfl⟩
          · rintro rfl
            exact nonempty rfl
          · intro c member
            rw [Bool.eq_false_iff]
            exact fun reserved => plain (List.any_eq_true.2 ⟨c, member, reserved⟩)
  · rintro ⟨⟨nonempty, noDash, plain⟩, rfl⟩
    have unreserved : ¬name.any isReserved = true := by
      intro reserved
      obtain ⟨c, member, isReserved⟩ := List.any_eq_true.1 reserved
      rw [plain c member] at isReserved
      cases isReserved
    rw [if_neg (fun empty => nonempty (List.isEmpty_iff.1 empty)), if_neg noDash, if_neg unreserved]

theorem checkSymbol_eq_ok_iff {symbol : Text} {c : Char} :
    checkSymbol symbol = .ok c ↔ symbol = [c] ∧ isSymbol c = true := by
  constructor
  · intro success
    refine ⟨?_, isSymbol_of_checkSymbol success⟩
    rw [checkSymbol.eq_def] at success
    split at success
    next d =>
      split at success
      next =>
        cases success
        rfl
      next => cases success
    next => cases success
  · rintro ⟨rfl, checked⟩
    rw [checkSymbol, if_pos checked]

end Selector

namespace Rule

open SearchQuery.Selector

theorem make_eq_ok {canonical : Text} {aliases symbols : List Text} {rule : Rule}
    (given : make canonical aliases symbols = .ok rule) :
    (canonical :: aliases).mapM checkName = .ok rule.names ∧
      symbols.mapM checkSymbol = .ok rule.symbols := by
  rw [make] at given
  split at given
  next => cases given
  next => cases given
  next => cases given
  next name names characters canonicalChecked aliasesChecked symbolsChecked =>
    cases given
    refine ⟨?_, symbolsChecked⟩
    change (canonical :: aliases).mapM checkName = .ok (name :: names)
    rw [List.mapM_cons, canonicalChecked, aliasesChecked]
    rfl

end Rule

end SearchQuery
