import SearchQuery.Text.CharacterName
import SearchQuery.Text.Word

/-!
# Tokens of literals

The arguments of an action are literals: numbers, texts, byte texts, the constants, and collections of literals.
This module cuts the text of a literal into tokens.  Blanks and comments are passed over, and so are line feeds
between brackets and lines with nothing on them.
-/

set_option autoImplicit false

namespace SearchQuery.Console

/-- How a number is written. -/
inductive NumberKind where
  | decimal
  | hexadecimal
  | octal
  | binary
  | imaginary
deriving DecidableEq

def NumberKind.name : NumberKind → Text
  | .decimal => "decimal"
  | .hexadecimal => "hexadecimal"
  | .octal => "octal"
  | .binary => "binary"
  | .imaginary => "imaginary"

inductive LiteralToken where
  | number (imaginary : Bool)
  | text (bytes : Bool)
  | word (name : Text)
  | ellipsis
  | mark (c : Char)
  | lineFeed
  /-- Blanks before the first token of a line. -/
  | indent
  /-- A keyword right behind a number, with so many line feeds still to come. -/
  | runOn (kind : NumberKind) (feedsBehind : Nat)
  /-- Something that no literal has. -/
  | foreign
  /-- From here on there are no tokens. -/
  | fault
  | stop
deriving DecidableEq

namespace Literal

/-! ## Numbers -/

def isDecimal (c : Char) : Bool :=
  (Text.asciiDigit? c).isSome

/-- The digits with which a text goes on, single underscores between them left out, and what follows. -/
def moreDigits (isDigit : Char → Bool) : Text → Text × Text
  | [] => ([], [])
  | [c] => if isDigit c then ([c], []) else ([], [c])
  | c :: d :: rest =>
    if isDigit c then
      let (digits, after) := moreDigits isDigit (d :: rest)
      (c :: digits, after)
    else if c = '_' && isDigit d then
      let (digits, after) := moreDigits isDigit rest
      (d :: digits, after)
    else ([], c :: d :: rest)

/-- The digits with which a text starts, at least one, and what follows. -/
def digits? (isDigit : Char → Bool) : Text → Option (Text × Text)
  | [] => none
  | c :: rest =>
    if isDigit c then
      let (digits, after) := moreDigits isDigit rest
      some (c :: digits, after)
    else none

/-- The digits of the bases that are marked by a letter behind a zero. -/
def radixDigit? (marker : Char) : Option (NumberKind × (Char → Bool)) :=
  if marker = 'x' || marker = 'X' then some (.hexadecimal, fun c => (Text.hexDigit? c).isSome)
  else if marker = 'o' || marker = 'O' then some (.octal, fun c => '0' ≤ c && c ≤ '7')
  else if marker = 'b' || marker = 'B' then some (.binary, fun c => c = '0' || c = '1')
  else none

/-- The longest decimal integer that can be read, zero apart. -/
def maxIntegerDigits : Nat := 4300

/-- What follows the fraction, if there is one. -/
def afterFraction? : Text → Option Text
  | '.' :: rest =>
    match digits? isDecimal rest with
    | some (_, after) => some after
    | none => some rest
  | _ => none

/-- What follows the exponent, if there is one. -/
def afterExponent? : Text → Option Text
  | c :: rest =>
    if c = 'e' || c = 'E' then
      let unsigned := if rest.head? = some '+' || rest.head? = some '-' then rest.drop 1 else rest
      (digits? isDecimal unsigned).map (·.2)
    else none
  | [] => none

/-- A number at the start of a text, and what follows it. -/
structure NumberCut where
  kind : NumberKind
  token : LiteralToken
  rest : Text

/-- A decimal integer has no leading zero, unless it is zero, and it must not have too many digits. -/
def integer? (digits rest : Text) : Option NumberCut :=
  if digits.all (· = '0') then some ⟨.decimal, .number false, rest⟩
  else if digits.head? = some '0' then none
  else if digits.length ≤ maxIntegerDigits then some ⟨.decimal, .number false, rest⟩
  else some ⟨.decimal, .foreign, rest⟩

def decimal? (s : Text) : Option NumberCut :=
  let (whole, afterWhole) := moreDigits isDecimal s
  let fraction := afterFraction? afterWhole
  let exponent := afterExponent? (fraction.getD afterWhole)
  let rest := exponent.getD (fraction.getD afterWhole)
  if rest.head? = some 'j' || rest.head? = some 'J' then some ⟨.imaginary, .number true, rest.drop 1⟩
  else if fraction.isSome || exponent.isSome then some ⟨.decimal, .number false, rest⟩
  else integer? whole rest

def number? (s : Text) : Option NumberCut :=
  match s with
  | '0' :: marker :: rest =>
    match radixDigit? marker with
    | some (kind, isDigit) =>
      (digits? isDigit (if rest.head? = some '_' then rest.drop 1 else rest)).map fun cut =>
        ⟨kind, .number false, cut.2⟩
    | none => decimal? s
  | _ => decimal? s

/-- Whether a number starts here. -/
def startsNumber : Text → Bool
  | '.' :: c :: _ => isDecimal c
  | c :: _ => isDecimal c
  | [] => false

/-! ## Words -/

def isWordStart (c : Char) : Bool :=
  c.isAlpha || c = '_' || 0x80 ≤ c.toNat

def isWordChar (c : Char) : Bool :=
  isWordStart c || isDecimal c

/-- A word is made of letters, digits and underscores. -/
def word (letters : Text) : LiteralToken :=
  if letters.all Text.isWord then .word letters else .fault

/-- Whether a text starts with a word that ends there. -/
def startsWithWord (word s : Text) : Bool :=
  (Text.after? word s).any fun rest => !rest.head?.any isWordChar

/-- Whether a keyword starts here that can follow a value. -/
def startsKeyword (s : Text) : Bool :=
  (Text.words "and else for or not").any (startsWithWord · s) ||
    (Text.words "if in is").any (·.isPrefixOf s)

/-- The tokens for a number, unless a letter of the alphabet or a digit follows it. -/
def NumberCut.tokens (cut : NumberCut) : List LiteralToken :=
  if startsKeyword cut.rest then [cut.token, .runOn cut.kind (cut.rest.count '\n')]
  else if cut.rest.head?.any fun c => isWordChar c && c.toNat < 0x80 then [.fault]
  else [cut.token]

/-! ## Texts -/

/-- How a text is written. -/
structure TextForm where
  bytes : Bool := false
  raw : Bool := false
  /-- Whether expressions may stand in the text. -/
  formatted : Bool := false
deriving DecidableEq

/-- The forms by the letters that stand before the quote. -/
def textForm? (letters : Text) : Option TextForm :=
  let lowered := letters.map Char.toLower
  if lowered = [] || lowered = ['u'] then some {}
  else if lowered = ['r'] then some { raw := true }
  else if lowered = ['b'] then some { bytes := true }
  else if lowered = ['b', 'r'] || lowered = ['r', 'b'] then some { bytes := true, raw := true }
  else if lowered = ['f'] then some { formatted := true }
  else if lowered = ['f', 'r'] || lowered = ['r', 'f'] then some { formatted := true, raw := true }
  else none

/-- The inside of a text whose opening quote has been passed, and what follows its end.  A long text ends in three
quotes. -/
def untilQuote? (long : Bool) (quote : Char) : Text → Option (Text × Text)
  | [] => none
  | [c] => if c = quote && !long then some ([], []) else none
  | c :: d :: rest =>
    if c = '\\' then (untilQuote? long quote rest).map fun cut => (c :: d :: cut.1, cut.2)
    else if c = quote && !long then some ([], d :: rest)
    else if c = quote && d = quote && rest.head? = some quote then some ([], rest.drop 1)
    else if c = '\n' && !long then none
    else (untilQuote? long quote (d :: rest)).map fun cut => (c :: cut.1, cut.2)

/-- The inside of a text that starts with its opening quote, and what follows its end. -/
def inside? : Text → Option (Text × Text)
  | [] => none
  | quote :: rest =>
    if rest.take 2 = [quote, quote] then untilQuote? true quote (rest.drop 2)
    else untilQuote? false quote rest

/-- The code that the first characters spell in hexadecimal, if all of them are digits. -/
def hexCode? (count : Nat) (s : Text) : Option Nat := do
  let digits ← (s.take count).mapM Text.hexDigit?
  if digits.length = count then some (Text.ofDigits 16 digits) else none

/-- Whether a text starts with the name of a character in braces. -/
def startsWithName : Text → Bool
  | '\x7b' :: rest =>
    let name := rest.takeWhile (· ≠ '\x7d')
    name.length < rest.length && Text.isCharacterName name
  | _ => false

/-- Whether a backslash may be followed by a character, with `rest` behind it.  Codes have to be complete. -/
def TextForm.allowsEscape (form : TextForm) (c : Char) (rest : Text) : Bool :=
  if c = 'x' then (hexCode? 2 rest).isSome
  else if form.bytes then true
  else if c = 'u' then (hexCode? 4 rest).isSome
  else if c = 'U' then (hexCode? 8 rest).any (· ≤ 0x10FFFF)
  else if c = 'N' then startsWithName rest
  else true

/-- Whether the escapes inside a text make sense. -/
def TextForm.allowsEscapes (form : TextForm) : Text → Bool
  | [] => true
  | [_] => true
  | c :: d :: rest =>
    if c = '\\' then form.allowsEscape d rest && form.allowsEscapes rest
    else form.allowsEscapes (d :: rest)

/-- Whether something may stand inside a text. -/
def TextForm.allows (form : TextForm) (inside : Text) : Bool :=
  (!form.bytes || inside.all (·.toNat < 0x80)) && (form.raw || form.allowsEscapes inside)

def isQuote (c : Char) : Bool :=
  c = '\'' || c = '"'

/-- The form of a text that starts here, and the text from its opening quote on. -/
def startsText? (s : Text) : Option (TextForm × Text) :=
  let letters := s.takeWhile isWordChar
  let rest := s.dropWhile isWordChar
  if rest.head?.any isQuote then (textForm? letters).map (·, rest) else none

/-- The token of a text with something inside. -/
def TextForm.token (form : TextForm) (inside : Text) : LiteralToken :=
  if !form.formatted && form.allows inside then .text form.bytes else .foreign

/-! ## Brackets and lines -/

/-- The closing bracket for an opening one. -/
def closing? (c : Char) : Option Char :=
  [('(', ')'), ('[', ']'), ('\x7b', '\x7d')].lookup c

def isClosing (c : Char) : Bool :=
  c = ')' || c = ']' || c = '\x7d'

def maxBrackets : Nat := 200

def isMark (c : Char) : Bool :=
  c = ',' || c = ':' || c = '+' || c = '-'

/-- Where on its line the rest of a text starts. -/
inductive LinePlace where
  | start
  /-- On a line with nothing but blanks and a comment. -/
  | blank
  | inside
deriving DecidableEq

def tabStop : Nat := 8

/-- The column of the first token of a line, and the text from it on.  When a line is continued before its first token,
the blanks before the backslash count, if there are any. -/
def indentation? (column kept : Nat) : Text → Option (Nat × Text)
  | [] => some (if kept = 0 then column else kept, [])
  | ' ' :: rest => indentation? (column + 1) kept rest
  | '\t' :: rest => indentation? ((column / tabStop + 1) * tabStop) kept rest
  | '\x0c' :: rest => indentation? 0 kept rest
  | '\\' :: '\n' :: rest =>
    if rest.isEmpty then none else indentation? column (if kept = 0 then column else kept) rest
  | c :: rest => if c = '\\' then none else some (if kept = 0 then column else kept, c :: rest)

/-! ## Tokens -/

def isControl (c : Char) : Bool :=
  c.toNat < 0x20 || c.toNat = 0x7F

/-- The tokens at the start of a text that starts with no blank, line feed or bracket, and what follows them. -/
def firstTokens (s : Text) : List LiteralToken × Text :=
  if startsNumber s then
    match number? s with
    | some cut => (cut.tokens, cut.rest)
    | none => ([.fault], [])
  else
    match startsText? s with
    | some (form, quoted) =>
      match inside? quoted with
      | some (inside, rest) => ([form.token inside], rest)
      | none => ([.fault], [])
    | none =>
      match s with
      | '.' :: '.' :: '.' :: rest => ([.ellipsis], rest)
      | c :: rest =>
        if isWordStart c then ([word (s.takeWhile isWordChar)], s.dropWhile isWordChar)
        else if isControl c then ([.fault], rest)
        else if isMark c then ([.mark c], rest)
        else ([.foreign], rest)
      | [] => ([.fault], [])

/-- The tokens of a text behind some open brackets, as long as steps are left. -/
def tokensFrom : (steps : Nat) → (closings : List Char) → LinePlace → Text → List LiteralToken
  | 0, _, _, _ => [.fault]
  | steps + 1, closings, .start, s =>
    match indentation? 0 0 s with
    | none => [.fault]
    | some (column, rest) =>
      if rest.head? = some '#' || rest.head? = some '\n' then tokensFrom steps closings .blank rest
      else
        let tokens := tokensFrom steps closings .inside rest
        if closings.isEmpty && column ≠ 0 then .indent :: tokens else tokens
  | _ + 1, closings, _, [] => if closings.isEmpty then [] else [.fault]
  | steps + 1, closings, place, c :: rest =>
    if c = ' ' || c = '\t' || c = '\x0c' then tokensFrom steps closings place rest
    else if c = '#' then tokensFrom steps closings place (rest.dropWhile (· ≠ '\n'))
    else if c = '\\' then
      if rest.head? = some '\n' && rest.length > 1 then tokensFrom steps closings place (rest.drop 1)
      else [.fault]
    else if c = '\n' then
      if place = .blank || !closings.isEmpty then tokensFrom steps closings .start rest
      else .lineFeed :: tokensFrom steps closings .start rest
    else
      match closing? c with
      | some closing =>
        if closings.length < maxBrackets then .mark c :: tokensFrom steps (closing :: closings) place rest
        else [.fault]
      | none =>
        if isClosing c then
          if closings.head? = some c then .mark c :: tokensFrom steps (closings.drop 1) place rest
          else [.fault]
        else
          let (tokens, after) := firstTokens (c :: rest)
          if tokens = [.fault] then tokens else tokens ++ tokensFrom steps closings place after

/-- A text in which every line ends in a line feed. -/
def withLineFeeds : Text → Text
  | [] => []
  | ['\r'] => ['\n']
  | '\r' :: '\n' :: rest => '\n' :: withLineFeeds rest
  | c :: rest => (if c = '\r' then '\n' else c) :: withLineFeeds rest

/-- The tokens of a text.  Every step takes a character or starts a line, so there are at most twice as many steps as
characters. -/
def tokens (s : Text) : List LiteralToken :=
  if s.contains '\x00' then [.fault]
  else
    let lines := withLineFeeds s
    tokensFrom (2 * lines.length + 2) [] .start (lines.dropWhile fun c => c = ' ' || c = '\t')

/-- What is said about a keyword right behind a number. -/
def warning? (feeds : Nat) : LiteralToken → Option Text
  | .runOn kind feedsBehind =>
    some ("<unknown>:" ++ Text.decimal (feeds - feedsBehind + 1) ++ ": SyntaxWarning: invalid " ++
      kind.name ++ " literal\n")
  | _ => none

end Literal

end SearchQuery.Console
