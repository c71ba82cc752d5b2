import SearchQuery.Console.Action
import SearchQuery.Console.Style

/-!
# Markup

Text for the console may hold tags in square brackets.  A tag starts with a lower-case letter, `#`, `/`
or `@` and runs up to the first closing bracket, with no opening bracket in between.  Backslashes before
a tag are halved, and an odd one makes the tag plain text.  `escape` prepares a text so that rendering
shows it unchanged.  Tags are opened and closed by the names of their styles, and every tag that is not an action
marks a span of the shown text with its style.
-/

set_option autoImplicit false

namespace SearchQuery.Markup

/-! ## Tags -/

def isTagStart (c : Char) : Bool :=
  ('a' ≤ c && c ≤ 'z') || c = '#' || c = '/' || c = '@'

/-- The text up to the first closing bracket and what follows the bracket, unless an opening bracket
comes first. -/
def untilClosing? : Text → Option (Text × Text)
  | [] => none
  | c :: rest =>
    if c = ']' then some ([], rest)
    else if c = '[' then none
    else (untilClosing? rest).map fun cut => (c :: cut.1, cut.2)

/-- The inside of a tag and what follows the tag, for the text behind its opening bracket. -/
def tag? : Text → Option (Text × Text)
  | [] => none
  | c :: rest =>
    if isTagStart c then (untilClosing? rest).map fun cut => (c :: cut.1, cut.2) else none

theorem untilClosing?_shorter {s inside rest : Text} (found : untilClosing? s = some (inside, rest)) :
    rest.length < s.length := by
  induction s generalizing inside rest with
  | nil => simp [untilClosing?] at found
  | cons c s ih =>
    rw [untilClosing?] at found
    split at found
    · simp_all
    · split at found
      · simp at found
      · obtain ⟨cut, cutEquation, equal⟩ := Option.map_eq_some_iff.1 found
        obtain ⟨-, rfl⟩ := Prod.mk.inj equal
        have shorter := ih cutEquation
        simp
        omega

theorem tag?_shorter {s inside rest : Text} (found : tag? s = some (inside, rest)) :
    rest.length < s.length := by
  cases s with
  | nil => simp [tag?] at found
  | cons c s =>
    rw [tag?] at found
    split at found
    · obtain ⟨cut, cutEquation, equal⟩ := Option.map_eq_some_iff.1 found
      obtain ⟨-, rfl⟩ := Prod.mk.inj equal
      have shorter := untilClosing?_shorter cutEquation
      simp
      omega
    · simp at found

/-- A stretch of marked-up text: one plain character, or a tag with the backslashes before it. -/
inductive Token where
  | plain (c : Char)
  | tag (backslashes : Nat) (inside : Text)
deriving DecidableEq

/-- The tokens of a text, `pending` backslashes having been passed just before it. -/
def tokens (pending : Nat) (s : Text) : List Token :=
  let passed := List.replicate pending (Token.plain '\\')
  match s with
  | [] => passed
  | c :: rest =>
    if c = '\\' then tokens (pending + 1) rest
    else if c = '[' then
      match _found : tag? rest with
      | some (inside, after) => .tag pending inside :: tokens 0 after
      | none => passed ++ .plain c :: tokens 0 rest
    else passed ++ .plain c :: tokens 0 rest
termination_by s.length
decreasing_by
  · simp
  · have shorter := tag?_shorter _found
    simp
    omega
  · simp
  · simp

/-! ## Escaping -/

def bracketed (inside : Text) : Text :=
  '[' :: inside ++ [']']

def Token.escape : Token → Text
  | .plain c => [c]
  | .tag backslashes inside => List.replicate (2 * backslashes + 1) '\\' ++ bracketed inside

/-- Whether a text ends in a backslash that stands alone. -/
def endsInLoneBackslash (s : Text) : Bool :=
  match s.reverse with
  | '\\' :: '\\' :: _ => false
  | '\\' :: _ => true
  | _ => false

def escape (s : Text) : Text :=
  let escaped := (tokens 0 s).flatMap Token.escape
  if endsInLoneBackslash escaped then escaped ++ ['\\'] else escaped

/-! ## Pieces -/

/-- What is shown of marked-up text, and the tags between. -/
inductive Piece where
  | shown (s : Text)
  | tag (inside : Text)
deriving DecidableEq

/-- What a plain stretch shows: a backslash right before an opening bracket is left out. -/
def showPlain : Text → Text
  | [] => []
  | ['\\'] => ['\\']
  | '\\' :: c :: rest => if c = '[' then '[' :: showPlain rest else '\\' :: showPlain (c :: rest)
  | c :: rest => c :: showPlain rest

/-- The pieces of tokens, `stretch` being the plain characters passed so far in reverse. -/
def pieces (stretch : Text) : List Token → List Piece
  | [] => [.shown (showPlain stretch.reverse)]
  | .plain c :: rest => pieces (c :: stretch) rest
  | .tag backslashes inside :: rest =>
    let before := showPlain stretch.reverse ++ List.replicate (backslashes / 2) '\\'
    if backslashes % 2 = 1 then .shown (before ++ bracketed inside) :: pieces [] rest
    else .shown before :: .tag inside :: pieces [] rest

/-- The text that a piece shows. -/
def Piece.text : Piece → Text
  | .shown s => s
  | .tag _ => []

/-! ## Rendering -/

/-- What is wrong with marked-up text: a tag is closed that is not open, the arguments of an action are no
literals, which may give warnings, or a style has a number that cannot be read. -/
inductive Fault where
  | notOpen
  | badArguments (warnings : List Text)
  | unreadableNumber
deriving DecidableEq

def Fault.warnings : Fault → List Text
  | .badArguments warnings => warnings
  | _ => []

/-- A tag that has been opened at a position of the shown text. -/
structure OpenTag where
  name : Text
  parameters : Option Text
  start : Nat
deriving DecidableEq

/-- A stretch of the shown text with the definition of its style.  An action has none. -/
structure Span where
  start : Nat
  stop : Nat
  style : Option Text
deriving DecidableEq

namespace OpenTag

def isAction (tag : OpenTag) : Bool :=
  tag.name.head? = some '@'

/-- The definition of the style that a tag means. -/
def style (tag : OpenTag) : Text :=
  match tag.parameters with
  | none => tag.name
  | some parameters => tag.name ++ ' ' :: parameters

def span (tag : OpenTag) (stop : Nat) : Span :=
  ⟨tag.start, stop, some tag.style⟩

/-- The span that closing a tag leaves behind.  An action has no style, but its arguments are read. -/
def close (tag : OpenTag) (stop : Nat) : Except Fault Span :=
  if tag.isAction then do
    if let some parameters := tag.parameters then
      unless parameters.isEmpty do (Console.Action.read parameters).mapError .badArguments
    return ⟨tag.start, stop, none⟩
  else .ok (tag.span stop)

end OpenTag

/-- The name by which opening and closing tags are matched. -/
def matchName (s : Text) : Except Fault Text :=
  (Console.Style.normalize s).mapError fun _ => .unreadableNumber

/-- The name of a tag and what follows an equals sign. -/
def splitTag (inside : Text) : Text × Option Text :=
  match inside.dropWhile (· ≠ '=') with
  | [] => (inside, none)
  | _ :: parameters => (inside.takeWhile (· ≠ '='), some parameters)

/-- The innermost open tag of a name, or without a name the innermost of all, and the other ones. -/
def takeOpen? (name : Option Text) : List OpenTag → Option (OpenTag × List OpenTag)
  | [] => none
  | tag :: outer =>
    if name.all (· = tag.name) then some (tag, outer)
    else (takeOpen? name outer).map fun (found, others) => (found, tag :: others)

/-- The open tags behind a tag, innermost first, and the spans that it ends. -/
def nest (opened : List OpenTag) (position : Nat) (inside : Text) :
    Except Fault (List OpenTag × List Span) := do
  let (name, parameters) := splitTag inside
  match name with
  | '/' :: name =>
    let closed ← if Text.allBlank name then pure none else some <$> matchName (Text.trim name)
    let some (tag, others) := takeOpen? closed opened | throw .notOpen
    return (others, [← tag.close position])
  | _ => return (⟨← matchName name, parameters, position⟩ :: opened, [])

/-- The spans of pieces that follow a position, with some tags open. -/
def spans (opened : List OpenTag) (position : Nat) : List Piece → Except Fault (List Span)
  | [] => .ok (opened.map (·.span position))
  | .shown s :: rest => spans opened (position + s.length) rest
  | .tag inside :: rest => do
    let (opened, ended) ← nest opened position inside
    return ended ++ (← spans opened position rest)

/-- Marked-up text as it is shown. -/
structure Rendering where
  text : Text
  spans : List Span
deriving DecidableEq

def render (s : Text) : Except Fault Rendering := do
  let pieces := pieces [] (tokens 0 s)
  return ⟨pieces.flatMap Piece.text, ← spans [] 0 pieces⟩

end SearchQuery.Markup
