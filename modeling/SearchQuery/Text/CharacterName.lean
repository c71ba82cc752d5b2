import SearchQuery.Text.Blank
import SearchQuery.Text.Digit
import SearchQuery.Text.NameTable

/-!
# Characters by name

Every character of Unicode has a name.  The names of ideographs give their code, those of Korean syllables are
spelt by their letters, and all others are listed.  Listed names are found in capital and small letters alike.
-/

set_option autoImplicit false

namespace SearchQuery.Text

/-! ## Listed names -/

def endsNameWord (c : Char) : Bool :=
  c = ' ' || c = '-'

/-- The words of a name. -/
def nameWords : Text → List Text
  | [] => []
  | c :: rest =>
    if endsNameWord c then [c] :: nameWords rest
    else
      match nameWords rest with
      | [] => [[c]]
      | word :: more => (c :: word) :: more

/-- The names of a table, each with the number of words that it has in common with the one before it.  The words
themselves are left out. -/
def nameEntries : Text → List (Nat × Text)
  | [] => []
  | c :: rest =>
    if 'a' ≤ c && c ≤ 'z' then
      let name := rest.takeWhile fun c => !('a' ≤ c && c ≤ 'z')
      (c.toNat - 'a'.toNat, name.filter (· ≠ '\n')) :: nameEntries rest
    else nameEntries rest

/-- Whether the words of a name are listed behind a name with words. -/
def isListedBehind (sought before : List Text) : List (Nat × Text) → Bool
  | [] => false
  | (shared, name) :: rest =>
    let words := before.take shared ++ nameWords name
    words = sought || isListedBehind sought words rest

def isListedName (name : Text) : Bool :=
  isListedBehind (nameWords (name.map Char.toUpper)) [] (nameEntries nameTable.toList)

/-! ## Names by rule -/

/-- The longest of some spellings with which a text starts. -/
def longestStart? (spellings : List Text) (s : Text) : Option Text :=
  spellings.foldl (fun best spelling =>
    if spelling.isPrefixOf s && best.all (·.length < spelling.length) then some spelling else best) none

/-- The first consonants of a Korean syllable, of which one is silent. -/
def firstConsonants : List Text :=
  words "G GG N D DD R M B BB S SS J JJ C K T P H" ++ [[]]

def syllableVowels : List Text :=
  words "A AE YA YAE EO E YEO YE O WA WAE OE YO U WEO WE WI YU EU YI I"

/-- The last consonants of a Korean syllable, which may be missing. -/
def lastConsonants : List Text :=
  words "G GG GS N NJ NH D L LG LM LB LS LT LP LH M B BS S SS NG J C K T P H" ++ [[]]

/-- Whether a text spells a Korean syllable, its parts being as long as they can be. -/
def isSyllable (s : Text) : Bool :=
  ([firstConsonants, syllableVowels, lastConsonants].foldl (fun rest spellings => do
    let rest ← rest
    let spelling ← longestStart? spellings rest
    return rest.drop spelling.length) (some s)) = some []

/-- The codes of the unified ideographs. -/
def ideographRanges : List (Nat × Nat) :=
  [(0x3400, 0x4DBF), (0x4E00, 0x9FFF), (0x20000, 0x2A6DF), (0x2A700, 0x2B738), (0x2B740, 0x2B81D),
    (0x2B820, 0x2CEA1), (0x2CEB0, 0x2EBE0), (0x30000, 0x3134A)]

/-- Whether a text is the code of a unified ideograph in four or five digits, letters being capital. -/
def isIdeographCode (s : Text) : Bool :=
  (s.length = 4 || s.length = 5) && s.all (fun c => !c.isLower) &&
    (s.mapM hexDigit?).any fun digits =>
      ideographRanges.any fun range => range.1 ≤ ofDigits 16 digits && ofDigits 16 digits ≤ range.2

/-- Whether a character has a name. -/
def isCharacterName (name : Text) : Bool :=
  match after? "HANGUL SYLLABLE " name with
  | some syllable => isSyllable syllable
  | none =>
    match after? "CJK UNIFIED IDEOGRAPH-" name with
    | some code => isIdeographCode code
    | none => isListedName name

end SearchQuery.Text
