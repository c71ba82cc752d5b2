import SearchQuery.Text.Basic

/-!
# Blank characters

The blanks are the white space of Unicode: the ASCII controls from tab to carriage return, the four
information separators, the space, the next-line control, and every space, line and paragraph
separator.  Trimming removes blanks from the ends of a text.
-/

set_option autoImplicit false

namespace SearchQuery.Text

def isBlank (c : Char) : Bool :=
  let n := c.toNat
  (0x09 ≤ n && n ≤ 0x0D) || (0x1C ≤ n && n ≤ 0x20) || n == 0x85 || n == 0xA0 || n == 0x1680 ||
    (0x2000 ≤ n && n ≤ 0x200A) || n == 0x2028 || n == 0x2029 || n == 0x202F || n == 0x205F ||
    n == 0x3000

def trimStart (s : Text) : Text :=
  s.dropWhile isBlank

def trimEnd (s : Text) : Text :=
  (s.reverse.dropWhile isBlank).reverse

def trim (s : Text) : Text :=
  trimEnd (trimStart s)

/-- The stretches of a text between blanks. -/
def words (s : Text) : List Text :=
  (stretches isBlank s).filter (!·.isEmpty)

/-- Whether a text holds nothing but blanks. -/
def allBlank (s : Text) : Bool :=
  s.all isBlank

end SearchQuery.Text
