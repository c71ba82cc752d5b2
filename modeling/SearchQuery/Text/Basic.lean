/-!
# Texts

A text is its list of characters, so lengths and positions count characters.  A string literal
stands for the list of its characters wherever a text is expected.
-/

set_option autoImplicit false

namespace SearchQuery

abbrev Text := List Char

instance : Coe String Text := ⟨String.toList⟩

namespace Text

/-- The parts one after another, with `separator` between neighbours. -/
def join (separator : Text) (parts : List Text) : Text :=
  separator.intercalate parts

/-- Whether `part` stands somewhere inside the text. -/
def occursIn (part : Text) : Text → Bool
  | [] => part.isEmpty
  | c :: rest => part.isPrefixOf (c :: rest) || occursIn part rest

/-- The text without a leading `start`, if it has one. -/
def after? : (start : Text) → Text → Option Text
  | [], s => some s
  | _ :: _, [] => none
  | a :: start, c :: s => if a = c then after? start s else none

/-- The stretches of a text between the characters that divide it. -/
def stretches (divides : Char → Bool) : Text → List Text
  | [] => [[]]
  | c :: rest =>
    if divides c then [] :: stretches divides rest
    else
      match stretches divides rest with
      | [] => [[c]]
      | part :: more => (c :: part) :: more

/-- Whether a text does not come behind another one in the order of code points. -/
def precedes : Text → Text → Bool
  | [], _ => true
  | _ :: _, [] => false
  | a :: s, b :: t => a.toNat < b.toNat || (a = b && precedes s t)

/-- Whether a character's code point lies in one of some inclusive ranges. -/
def within (ranges : List (Nat × Nat)) (c : Char) : Bool :=
  ranges.any fun range => range.1 ≤ c.toNat && c.toNat ≤ range.2

/-- The text filled up on the left to `width` characters. -/
def padStart (fill : Char) (width : Nat) (s : Text) : Text :=
  List.replicate (width - s.length) fill ++ s

theorem dropWhile_length_le (p : Char → Bool) (s : Text) : (s.dropWhile p).length ≤ s.length :=
  (List.dropWhile_suffix p).length_le

theorem after?_append (start s : Text) : after? start (start ++ s) = some s := by
  induction start with
  | nil => rfl
  | cons a start ih => simp [after?, ih]

end Text

end SearchQuery
