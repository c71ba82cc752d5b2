import SearchQuery.Text.Quoted

/-!
# Suggestions

Where a word names nothing, the names that are most like it are suggested.  How much two texts are alike is told
by the characters in their common blocks: the longest stretch that both of them hold, and then in the same way
the blocks before it and behind it.
-/

set_option autoImplicit false

namespace SearchQuery.Suggestion

/-- A stretch that a text has in common with another one. -/
structure Block where
  start : Nat
  otherStart : Nat
  length : Nat

/-- How many characters two texts have in common at their starts. -/
def commonLength : Text → Text → Nat
  | a :: s, b :: t => if a = b then commonLength s t + 1 else 0
  | _, _ => 0

/-- Where the longest stretch with which `s` starts is first found, counting from `position`, and its length. -/
def longestStart (s : Text) (position : Nat) : Text → Nat × Nat
  | [] => (position, 0)
  | c :: rest =>
    let here := commonLength s (c :: rest)
    let later := longestStart s (position + 1) rest
    if here < later.2 then later else (position, here)

/-- The longest block, and of several the one that is first in the text and then in the other one. -/
def longestBlock (other : Text) (position : Nat) : Text → Block
  | [] => ⟨position, 0, 0⟩
  | c :: rest =>
    let (otherStart, length) := longestStart (c :: rest) 0 other
    let later := longestBlock other (position + 1) rest
    if length < later.length then later else ⟨position, otherStart, length⟩

theorem longestBlock_start_lt {other s : Text} {position : Nat}
    (found : 0 < (longestBlock other position s).length) :
    (longestBlock other position s).start < position + s.length := by
  induction s generalizing position with
  | nil => simp [longestBlock] at found
  | cons c rest ih =>
    simp only [longestBlock] at found ⊢
    split
    · rename_i longer
      have later := @ih (position + 1) (by omega)
      simp only [List.length_cons]
      omega
    · simp

/-- How many characters lie in the common blocks of two texts. -/
def blockCount (s t : Text) : Nat :=
  match _block : longestBlock t 0 s with
  | ⟨_, _, 0⟩ => 0
  | ⟨start, otherStart, length + 1⟩ =>
    blockCount (s.take start) (t.take otherStart) + (length + 1) +
      blockCount (s.drop (start + length + 1)) (t.drop (otherStart + length + 1))
termination_by s.length
decreasing_by
  all_goals
    have inside := @longestBlock_start_lt t s 0 (by simp [_block])
    simp only [_block, List.length_take, List.length_drop] at inside ⊢
    omega

/-- A name with the characters that it shares with a word and the characters of both. -/
structure Candidate where
  name : Text
  shared : Nat
  total : Nat

namespace Candidate

def of (word name : Text) : Candidate :=
  ⟨name, blockCount name word, name.length + word.length⟩

/-- At least three fifths of the characters lie in common blocks. -/
def isClose (candidate : Candidate) : Bool :=
  3 * candidate.total ≤ 10 * candidate.shared

/-- Whether a candidate goes before another one: it shares the larger part, or as much under a later name. -/
def goesBefore (first second : Candidate) : Bool :=
  let ahead := first.shared * second.total
  let behind := second.shared * first.total
  behind < ahead || (ahead == behind && Text.precedes second.name first.name)

end Candidate

def limit : Nat := 3

/-- The names that are most like a word, in their order. -/
def closest (word : Text) (names : List Text) : List Text :=
  let close := (names.map (Candidate.of word)).filter Candidate.isClose
  (((close.mergeSort Candidate.goesBefore).take limit).map (·.name)).mergeSort Text.precedes

/-- What is said about the names that may have been meant. -/
def text : List Text → Text
  | [] => []
  | [name] => " Did you mean " ++ Text.quoted name ++ "?"
  | names => " (Did you mean one of: " ++ Text.join ", " (names.map Text.quoted) ++ "?)"

end SearchQuery.Suggestion
