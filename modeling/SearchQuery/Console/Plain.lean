import SearchQuery.Text.Basic

/-!
# Plain output

Text that is printed as it is, without markup, must not steer the terminal: control sequences are left out.  A
control sequence is an escape and an opening bracket, then parameter bytes, then intermediate bytes, then one final
byte.
-/

set_option autoImplicit false

namespace SearchQuery.Console

def isParameterByte (c : Char) : Bool :=
  '0' ≤ c && c ≤ '?'

def isIntermediateByte (c : Char) : Bool :=
  ' ' ≤ c && c ≤ '/'

def isFinalByte (c : Char) : Bool :=
  '@' ≤ c && c ≤ '~'

/-- What follows a control sequence whose escape and opening bracket have been passed. -/
def afterSequence? (s : Text) : Option Text :=
  match (s.dropWhile isParameterByte).dropWhile isIntermediateByte with
  | c :: rest => if isFinalByte c then some rest else none
  | [] => none

theorem afterSequence?_shorter {s rest : Text} (found : afterSequence? s = some rest) :
    rest.length < s.length := by
  have parameters := Text.dropWhile_length_le isParameterByte s
  have intermediates := Text.dropWhile_length_le isIntermediateByte (s.dropWhile isParameterByte)
  unfold afterSequence? at found
  split at found
  · rename_i cut
    split at found
    · obtain rfl := Option.some.inj found
      rw [cut, List.length_cons] at intermediates
      omega
    · simp at found
  · simp at found

/-- The text without its control sequences. -/
def withoutSequences (s : Text) : Text :=
  match s with
  | [] => []
  | [c] => [c]
  | c :: d :: rest =>
    if c = '\x1b' ∧ d = '[' then
      match _found : afterSequence? rest with
      | some after => withoutSequences after
      | none => c :: withoutSequences (d :: rest)
    else c :: withoutSequences (d :: rest)
termination_by s.length
decreasing_by
  · have shorter := afterSequence?_shorter _found
    simp only [List.length_cons]
    omega
  · simp
  · simp

end SearchQuery.Console
