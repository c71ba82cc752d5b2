import SearchQuery.Text.Fold

/-!
# Folding and beginnings

Every character folds to at least one character, so folding keeps texts that are not empty so, and it takes
beginnings of a text to beginnings of the folded text.
-/

set_option autoImplicit false

namespace SearchQuery.Text

theorem foldExpansions_ne_nil : ∀ entry ∈ foldExpansions, entry.2 ≠ [] := by
  decide

theorem foldChar_ne_nil (c : Char) : foldChar c ≠ [] := by
  rw [foldChar]
  split
  next image found =>
    obtain ⟨before, after, listed, -⟩ := List.lookup_eq_some_iff.1 found
    have member : (c.toNat, image) ∈ foldExpansions := by simp [listed]
    exact fun empty => foldExpansions_ne_nil _ member (List.map_eq_nil_iff.1 empty)
  next =>
    split
    next => exact List.cons_ne_nil _ _
    next => exact List.cons_ne_nil _ _

theorem fold_ne_nil {s : Text} (nonempty : s ≠ []) : fold s ≠ [] := by
  obtain ⟨c, rest, rfl⟩ := List.exists_cons_of_ne_nil nonempty
  rw [fold_cons]
  exact List.append_ne_nil_of_left_ne_nil (foldChar_ne_nil c) (fold rest)

theorem fold_isPrefix {s t : Text} (beginning : s <+: t) : fold s <+: fold t := by
  obtain ⟨rest, rfl⟩ := beginning
  exact ⟨fold rest, (fold_append s rest).symm⟩

end SearchQuery.Text
