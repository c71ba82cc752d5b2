import SearchQuery.Text.Basic
import SearchQuery.Text.LowerTable

/-!
# Lower case

Every character has a lower case of its own, but for the capital sigma: it becomes a final sigma at the end of a
word, that is, where a character with a case comes before it and none comes after it.
-/

set_option autoImplicit false

namespace SearchQuery.Text

/-- The capital I with a dot above, whose lower case keeps the dot as a mark of its own. -/
def dottedCapital : Char := '\u0130'

def capitalSigma : Char := '\u03a3'

def smallSigma : Char := '\u03c3'

def finalSigma : Char := '\u03c2'

/-- The lower case of a character that is no capital sigma. -/
def lowerChar (c : Char) : Text :=
  if c = dottedCapital then ['i', '\u0307']
  else
    match lowerRuns.findSome? (·.imageOf? c.toNat) with
    | some image => [Char.ofNat image]
    | none => [c]

/-- Whether the first character that counts has a case. -/
def startsCased (s : Text) : Bool :=
  match s.dropWhile (within caseIgnorableRanges) with
  | [] => false
  | c :: _ => within casedRanges c

/-- The lower case of a text, the characters in front of it being given in reverse. -/
def lowerAfter (before : Text) : Text → Text
  | [] => []
  | c :: rest =>
    let image :=
      if c = capitalSigma then
        [if startsCased before && !startsCased rest then finalSigma else smallSigma]
      else lowerChar c
    image ++ lowerAfter (c :: before) rest

def lower (s : Text) : Text :=
  lowerAfter [] s

end SearchQuery.Text
