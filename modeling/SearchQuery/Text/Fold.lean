import SearchQuery.Text.Basic
import SearchQuery.Text.FoldTable

/-!
# Case folding

Folding replaces every character on its own by one or more characters, so that texts differing only
in case fold to the same text.
-/

set_option autoImplicit false

namespace SearchQuery.Text

def foldChar (c : Char) : Text :=
  match foldExpansions.lookup c.toNat with
  | some image => image.map Char.ofNat
  | none =>
    match foldRuns.findSome? (·.imageOf? c.toNat) with
    | some image => [Char.ofNat image]
    | none => [c]

def fold (s : Text) : Text :=
  s.flatMap foldChar

@[simp] theorem fold_nil : fold [] = [] := rfl

@[simp] theorem fold_cons (c : Char) (s : Text) : fold (c :: s) = foldChar c ++ fold s := rfl

@[simp] theorem fold_append (s t : Text) : fold (s ++ t) = fold s ++ fold t := by
  simp [fold]

end SearchQuery.Text
