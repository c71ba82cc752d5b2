import SearchQuery.Text.Blank

/-!
# Pieces of a search string

A search string is cut into pieces: quoted spans, separators, bare runs and gaps of blanks.  A backslash
takes the following character with it, whatever it is, inside quotes and outside.  Cutting fails at a
quote that is never closed and at a backslash with nothing behind it; the fault comes with the rest of
the string from the offending character on.
-/

set_option autoImplicit false

namespace SearchQuery

/-- Why a search string cannot be cut. -/
inductive SyntaxFault where
  | unterminatedQuote
  | danglingEscape
deriving DecidableEq

def SyntaxFault.reason : SyntaxFault → Text
  | .unterminatedQuote => "unterminated quote"
  | .danglingEscape => "dangling escape character"

inductive Piece where
  | quoted (body : Text)
  | separator
  | bare (run : Text)
  | gap (blanks : Text)
deriving DecidableEq

namespace Piece

open SearchQuery.Text

/-- The piece as it was typed. -/
def raw : Piece → Text
  | .quoted body => '"' :: body ++ ['"']
  | .separator => [':']
  | .bare run => run
  | .gap blanks => blanks

/-- The text with every escaped character standing for itself. -/
def unescape : Text → Text
  | [] => []
  | ['\\'] => ['\\']
  | '\\' :: c :: rest => c :: unescape rest
  | c :: rest => c :: unescape rest

/-- What the piece contributes to a selector or a value. -/
def content : Piece → Text
  | .quoted body => unescape body
  | .separator => [':']
  | .bare run => unescape run
  | .gap blanks => blanks

/-- Cuts behind the quote that closes a span, the text starting after the opening quote. -/
def closeQuote? : Text → Option (Text × Text)
  | [] => none
  | ['\\'] => none
  | '\\' :: c :: rest => (closeQuote? rest).map fun cut => ('\\' :: c :: cut.1, cut.2)
  | c :: rest =>
    if c = '"' then some ([], rest)
    else (closeQuote? rest).map fun cut => (c :: cut.1, cut.2)

/-- Cuts before the first blank, quote or separator that is not escaped. -/
def bareRun : Text → Text × Text
  | [] => ([], [])
  | ['\\'] => ([], ['\\'])
  | '\\' :: c :: rest => ('\\' :: c :: (bareRun rest).1, (bareRun rest).2)
  | c :: rest =>
    if isBlank c || c = '"' || c = ':' then ([], c :: rest)
    else (c :: (bareRun rest).1, (bareRun rest).2)

theorem closeQuote?_shorter {s body rest : Text} (closed : closeQuote? s = some (body, rest)) :
    rest.length < s.length := by
  fun_induction closeQuote? s generalizing body rest with
  | case1 => simp at closed
  | case2 => simp at closed
  | case3 c more ih =>
    obtain ⟨cut, cutEquation, equal⟩ := Option.map_eq_some_iff.1 closed
    obtain ⟨-, rfl⟩ := Prod.mk.inj equal
    have shorter := ih cutEquation
    simp
    omega
  | case4 more => simp_all
  | case5 c more _ _ _ ih =>
    obtain ⟨cut, cutEquation, equal⟩ := Option.map_eq_some_iff.1 closed
    obtain ⟨-, rfl⟩ := Prod.mk.inj equal
    have shorter := ih cutEquation
    simp
    omega

theorem bareRun_length_le (s : Text) : (bareRun s).2.length ≤ s.length := by
  fun_induction bareRun s with
  | case1 => simp
  | case2 => simp
  | case3 c rest ih => simp; omega
  | case4 c rest => simp
  | case5 c rest _ _ ih => simp; omega

/-- The pieces of a text, or the fault and the text from the offending character on. -/
def cut : Text → Except (SyntaxFault × Text) (List Piece)
  | [] => .ok []
  | '"' :: rest =>
    match _closed : closeQuote? rest with
    | none => .error (.unterminatedQuote, '"' :: rest)
    | some (body, after) => (cut after).map (.quoted body :: ·)
  | ':' :: rest => (cut rest).map (.separator :: ·)
  | ['\\'] => .error (.danglingEscape, ['\\'])
  | '\\' :: c :: rest => (cut (bareRun rest).2).map (.bare ('\\' :: c :: (bareRun rest).1) :: ·)
  | c :: rest =>
    if isBlank c then
      (cut (rest.dropWhile isBlank)).map (.gap (c :: rest.takeWhile isBlank) :: ·)
    else (cut (bareRun rest).2).map (.bare (c :: (bareRun rest).1) :: ·)
termination_by s => s.length
decreasing_by
  · have shorter := closeQuote?_shorter _closed
    simp
    omega
  · simp
  · have shorter := bareRun_length_le rest
    simp
    omega
  · have shorter := dropWhile_length_le isBlank rest
    simp
    omega
  · have shorter := bareRun_length_le rest
    simp
    omega

end Piece

end SearchQuery
