/-!
# Runs of characters that change case alike

Case tables hold one entry per run.  A run `⟨first, last, step, image⟩` sends `first + k * step` to
`image + k * step` for every such code point up to `last`.
-/

set_option autoImplicit false

namespace SearchQuery.Text

/-- Equally spaced code points that change by the same distance. -/
structure CaseRun where
  first : Nat
  last : Nat
  step : Nat
  image : Nat
deriving DecidableEq

/-- The image of a code point of the run. -/
def CaseRun.imageOf? (run : CaseRun) (n : Nat) : Option Nat :=
  if run.first ≤ n ∧ n ≤ run.last ∧ (n - run.first) % run.step = 0 then
    some (run.image + (n - run.first))
  else none

end SearchQuery.Text
