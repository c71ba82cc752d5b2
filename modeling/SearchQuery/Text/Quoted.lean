import SearchQuery.Text.Digit
import SearchQuery.Text.UnprintableTable

/-!
# Quoted texts

The quoted form of a text names every character: it stands between quotes, with the quote, the
backslash and the common controls escaped by a backslash and every other unprintable character
written by its code point in hexadecimal.
-/

set_option autoImplicit false

namespace SearchQuery.Text

def isPrintable (c : Char) : Bool :=
  let n := c.toNat
  if n < 0x7F then decide (0x20 ≤ n) else !within unprintableRanges c

/-- An apostrophe, unless the text holds an apostrophe and no double quote. -/
def quoteFor (s : Text) : Char :=
  if s.contains '\'' && !s.contains '"' then '"' else '\''

/-- A character's code point behind the shortest marker that can hold it. -/
def codeEscape (c : Char) : Text :=
  let n := c.toNat
  if n < 0x100 then '\\' :: 'x' :: hex 2 n
  else if n < 0x10000 then '\\' :: 'u' :: hex 4 n
  else '\\' :: 'U' :: hex 8 n

def quoteChar (quote c : Char) : Text :=
  if c = quote ∨ c = '\\' then ['\\', c]
  else if c = '\n' then ['\\', 'n']
  else if c = '\r' then ['\\', 'r']
  else if c = '\t' then ['\\', 't']
  else if isPrintable c then [c]
  else codeEscape c

def quoted (s : Text) : Text :=
  let quote := quoteFor s
  quote :: s.flatMap (quoteChar quote) ++ [quote]

end SearchQuery.Text
