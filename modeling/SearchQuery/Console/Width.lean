import SearchQuery.Console.WidthTable
import SearchQuery.Text.Basic

/-!
# Columns

A text takes as many columns of a terminal as its characters do together, with two exceptions that make emoji: a
character behind a joiner takes none, and the selector for emoji adds a column to a narrow character that has a
wide form.
-/

set_option autoImplicit false

namespace SearchQuery.Console

def charWidth (c : Char) : Nat :=
  if 0x20 ≤ c.toNat ∧ c.toNat < 0x7F then 1
  else if Text.within zeroWidthRanges c then 0
  else if Text.within doubleWidthRanges c then 2
  else 1

def joiner : Char := '\u200d'

def emojiSelector : Char := '\ufe0f'

/-- The columns of a text, `last` being the character with columns before it to which a selector belongs. -/
def widthAfter (last : Option Char) : Text → Nat
  | [] => 0
  | [c] =>
    if c = joiner then 0
    else if c = emojiSelector then (if last.any (Text.within widenedRanges) then 1 else 0)
    else charWidth c
  | c :: d :: rest =>
    if c = joiner then widthAfter last rest
    else if c = emojiSelector then
      (if last.any (Text.within widenedRanges) then 1 else 0) + widthAfter none (d :: rest)
    else charWidth c + widthAfter (if charWidth c = 0 then last else some c) (d :: rest)

def width (s : Text) : Nat :=
  widthAfter none s

end SearchQuery.Console
