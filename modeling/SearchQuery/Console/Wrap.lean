import SearchQuery.Console.Cluster
import SearchQuery.Text.Blank

/-!
# Breaking lines

A line with more columns than there is room for is broken between words.  A word goes together with the blanks behind
it, and the first one also with the blanks before it.  A word that fits on no line is either cut, or it gets a line
of its own that is shortened later.
-/

set_option autoImplicit false

namespace SearchQuery.Console

/-! ## Words -/

/-- Where in a word a character stands. -/
inductive WordPart where
  | before
  | inside
  | behind
deriving DecidableEq

/-- The words of a text, the characters of the first one that have been passed being given in reverse. -/
def wordsAfter (passed : Text) (part : WordPart) : Text → List Text
  | [] => if part = .before then [] else [passed.reverse]
  | c :: rest =>
    if Text.isBlank c then
      wordsAfter (c :: passed) (if part = .before then .before else .behind) rest
    else if part = .behind then passed.reverse :: wordsAfter [c] .inside rest
    else wordsAfter (c :: passed) .inside rest

/-- The words of a text with the blanks around them. -/
def blankedWords (s : Text) : List Text :=
  wordsAfter [] .before s

/-! ## Breaks -/

/-- What becomes of a word that fits on no line. -/
inductive Overflow where
  | fold
  | ellipsis
deriving DecidableEq

/-- The positions at which stretches start that follow a position. -/
def startsFrom (position : Nat) : List Text → List Nat
  | [] => []
  | stretch :: rest => position :: startsFrom (position + stretch.length) rest

/-- The positions at which lines of words are broken, the first word following a position and going on from a line that
has used some columns. -/
def breaksFrom (columns : Nat) (overflow : Overflow) (position used : Nat) : List Text → List Nat
  | [] => []
  | word :: rest =>
    let needed := width (Text.trimEnd word)
    let next := position + word.length
    if used + needed ≤ columns then breaksFrom columns overflow next (used + width word) rest
    else if needed ≤ columns || overflow = .ellipsis then
      position :: breaksFrom columns overflow next (width word) rest
    else
      let stretches := chop columns word
      startsFrom position stretches ++
        breaksFrom columns overflow next (width (stretches.getLastD [])) rest

/-- The positions at which a line is broken.  Nothing is broken off at its start. -/
def breaks (columns : Nat) (overflow : Overflow) (line : Text) : List Nat :=
  (breaksFrom columns overflow 0 0 (blankedWords line)).filter (· ≠ 0)

end SearchQuery.Console
