import SearchQuery.Text.Digit
import SearchQuery.Toml.Fault

/-!
# Keys and strings of TOML documents

Literal strings stand for themselves; basic strings may hold escapes.  Both have a form over several
lines, which ends at three quotes and may hold up to two more before them.
-/

set_option autoImplicit false

namespace SearchQuery.Toml

open SearchQuery.Text

def isGap (c : Char) : Bool :=
  c = ' ' || c = '\t'

def isGapOrNewline (c : Char) : Bool :=
  isGap c || c = '\n'

def skipGap (s : Text) : Text :=
  s.dropWhile isGap

/-- The ASCII controls other than the tab. -/
def isControl (c : Char) : Bool :=
  (c.toNat < 0x20 && c ≠ '\t') || c.toNat = 0x7F

/-- The controls that a string must not hold. -/
def isIllegal (multiline : Bool) (c : Char) : Bool :=
  isControl c && !(multiline && c = '\n')

/-- Cuts at the first place where a delimiter stands. -/
def cutAt? (delimiter : Text) : Text → Option (Text × Text)
  | [] => if delimiter.isEmpty then some ([], []) else none
  | c :: rest =>
    match after? delimiter (c :: rest) with
    | some after => some ([], after)
    | none => (cutAt? delimiter rest).map fun cut => (c :: cut.1, cut.2)

/-! ## Literal strings -/

/-- The rest of a literal string, behind its opening quotes. -/
def literalString (multiline : Bool) (delimiter s : Text) : Except Fault (Text × Text) :=
  match cutAt? delimiter s with
  | none => complain (.expected delimiter) []
  | some (body, rest) =>
    match body.dropWhile (!isIllegal multiline ·) with
    | [] => .ok (body, rest)
    | c :: more => complain (.strayControl c) (c :: more ++ delimiter ++ rest)

/-! ## Basic strings -/

def simpleEscape? (c : Char) : Option Char :=
  [('b', '\x08'), ('t', '\t'), ('n', '\n'), ('f', '\x0c'), ('r', '\r'), ('"', '"'),
    ('\\', '\\')].lookup c

/-- A character given by a fixed number of hexadecimal digits. -/
def hexEscape (digits : Nat) (s : Text) : Except Fault (Text × Text) :=
  match (s.take digits).mapM hexDigit? with
  | none => complain .badHex s
  | some values =>
    if values.length ≠ digits then complain .badHex s
    else
      let code := ofDigits 16 values
      if code.isValidChar then .ok ([Char.ofNat code], s.drop digits)
      else complain .noScalar (s.drop digits)

/-- An escaped line break, behind the backslash and its first blank: everything up to the next character
that is not blank is skipped, and a line feed has to be among it. -/
def lineContinuation (first : Char) (s : Text) : Except Fault (Text × Text) :=
  if first = '\n' then .ok ([], s.dropWhile isGapOrNewline)
  else
    match skipGap s with
    | [] => .ok ([], [])
    | c :: rest =>
      if c = '\n' then .ok ([], rest.dropWhile isGapOrNewline) else complain .badEscape (c :: rest)

/-- An escape, behind its backslash. -/
def escapeSequence (multiline : Bool) : Text → Except Fault (Text × Text)
  | [] => complain .badEscape []
  | c :: rest =>
    if multiline && isGapOrNewline c then lineContinuation c rest
    else if c = 'u' then hexEscape 4 rest
    else if c = 'U' then hexEscape 8 rest
    else
      match simpleEscape? c with
      | some d => .ok ([d], rest)
      | none => complain .badEscape rest

/-- The rest of a basic string, behind its opening quotes.  Every step takes a character, so that the
length of the text is fuel enough. -/
def basicString (multiline : Bool) : (fuel : Nat) → Text → Except Fault (Text × Text)
  | 0, _ => complain .unterminatedString []
  | _ + 1, [] => complain .unterminatedString []
  | fuel + 1, c :: rest =>
    let keep : Except Fault (Text × Text) :=
      (basicString multiline fuel rest).map fun (s, after) => (c :: s, after)
    if c = '"' then
      if multiline then
        match after? "\"\"" rest with
        | some after => .ok ([], after)
        | none => keep
      else .ok ([], rest)
    else if c = '\\' then do
      let (piece, rest) ← escapeSequence multiline rest
      let (more, after) ← basicString multiline fuel rest
      return (piece ++ more, after)
    else if isIllegal multiline c then complain (.illegalCharacter c) (c :: rest)
    else keep

/-- Up to two further quotes behind the end of a string over several lines belong to it. -/
def extraQuotes (quote : Char) (body : Text) : Text → Text × Text
  | a :: b :: rest =>
    if a = quote then
      if b = quote then (body ++ [quote, quote], rest) else (body ++ [quote], b :: rest)
    else (body, a :: b :: rest)
  | [a] => if a = quote then (body ++ [quote], []) else (body, [a])
  | [] => (body, [])

/-- A string over several lines, behind its opening quotes: a line feed right there does not count. -/
def multilineString (quote : Char) (s : Text) : Except Fault (Text × Text) := do
  let s := match s with
    | '\n' :: rest => rest
    | _ => s
  let (body, rest) ←
    if quote = '"' then basicString true (s.length + 1) s
    else literalString true [quote, quote, quote] s
  return extraQuotes quote body rest

/-! ## Keys -/

def isBareKeyChar (c : Char) : Bool :=
  c.isAlphanum || c = '-' || c = '_'

def keyPart (s : Text) : Except Fault (Text × Text) :=
  match s with
  | '\'' :: rest => literalString false ['\''] rest
  | '"' :: rest => basicString false (rest.length + 1) rest
  | _ =>
    let part := s.takeWhile isBareKeyChar
    if part.isEmpty then complain .badKeyStart s else .ok (part, s.dropWhile isBareKeyChar)

/-- The parts of a dotted key and the text behind the blanks that follow it. -/
def dottedKey : (fuel : Nat) → Text → Except Fault (Key × Text)
  | 0, s => complain .badKeyStart s
  | fuel + 1, s => do
    let (part, rest) ← keyPart s
    match skipGap rest with
    | '.' :: rest =>
      let (parts, rest) ← dottedKey fuel (skipGap rest)
      return (part :: parts, rest)
    | rest => return ([part], rest)

def readKey (s : Text) : Except Fault (Key × Text) :=
  dottedKey (s.length + 1) s

end SearchQuery.Toml
