import SearchQuery.Console.ColorTable
import SearchQuery.Number.Numeral
import SearchQuery.Text.Lower

/-!
# Styles

A style is defined by words: attributes and their negations, a colour, a colour of the background, and a link.
Definitions that mean the same have the same normal form.  A text that defines no style is normalised by its
letters alone.
-/

set_option autoImplicit false

namespace SearchQuery.Console

/-- Why a text defines no style: its words make no sense, or a part of a colour is no number that can be read. -/
inductive StyleFault where
  | senseless
  | unreadableNumber
deriving DecidableEq

/-! ## Colours -/

/-- Whether a text is a colour by the six hexadecimal digits of its parts. -/
def isHexColor : Text → Bool
  | '#' :: digits => digits.length = 6 && digits.all fun c => (Text.hexDigit? c).isSome
  | _ => false

/-- What stands between a name with an opening parenthesis and a closing one at the end. -/
def argument? (start s : Text) : Option Text := do
  let rest ← Text.after? start s
  if rest.getLast? = some ')' then some rest.dropLast else none

/-- The number of a colour in a table of two hundred and fifty-six. -/
def tableNumber? (s : Text) : Option Nat := do
  let digits ← (← argument? "color(" s).mapM Text.asciiDigit?
  if 1 ≤ digits.length ∧ digits.length ≤ 3 ∧ Text.ofDigits 10 digits ≤ 255 then
    some (Text.ofDigits 10 digits)
  else none

def isComponentChar (c : Char) : Bool :=
  (Text.digitValue? c).isSome || Text.isBlank c || c = ','

/-- The numbers of a colour that is given by its three parts. -/
def components (s : Text) : Except StyleFault (List Int) := do
  let some inside := argument? "rgb(" s | throw .senseless
  if inside.isEmpty || !inside.all isComponentChar then throw .senseless
  let parts := Text.stretches (· = ',') inside
  if parts.length ≠ 3 then throw .senseless
  parts.mapM fun part => (Numeral.readInteger part).mapError fun _ => .unreadableNumber

/-- The name of the colour that a word means. -/
def color (word : Text) : Except StyleFault Text := do
  let name := Text.lower word
  if name = "default".toList || colorNames.contains (String.ofList name) || isHexColor name ||
      (tableNumber? name).isSome then
    return name
  if (← components name).all (· ≤ 255) then return name
  throw .senseless

/-! ## Definitions -/

inductive Attribute where
  | bold
  | dim
  | italic
  | underline
  | blink
  | fastBlink
  | reverse
  | conceal
  | strike
  | doubleUnderline
  | frame
  | encircle
  | overline
deriving DecidableEq

namespace Attribute

/-- The attributes in the order of normal forms, with their names. -/
def names : List (Text × Attribute) :=
  [("bold".toList, .bold), ("dim".toList, .dim), ("italic".toList, .italic),
    ("underline".toList, .underline), ("blink".toList, .blink), ("blink2".toList, .fastBlink),
    ("reverse".toList, .reverse), ("conceal".toList, .conceal), ("strike".toList, .strike),
    ("underline2".toList, .doubleUnderline), ("frame".toList, .frame),
    ("encircle".toList, .encircle), ("overline".toList, .overline)]

def abbreviations : List (Text × Attribute) :=
  [("b".toList, .bold), ("d".toList, .dim), ("i".toList, .italic), ("u".toList, .underline),
    ("r".toList, .reverse), ("c".toList, .conceal), ("s".toList, .strike),
    ("uu".toList, .doubleUnderline), ("o".toList, .overline)]

def ofWord? (word : Text) : Option Attribute :=
  (names ++ abbreviations).lookup word

end Attribute

structure Style where
  /-- Which attributes are set, and whether they are on; the last setting of an attribute stands first. -/
  attributes : List (Attribute × Bool) := []
  color : Option Text := none
  background : Option Text := none
  link : Option Text := none

namespace Style

/-- Adds to a style what words say, one after another. -/
def addWords (style : Style) : List Text → Except StyleFault Style
  | [] => .ok style
  | word :: rest =>
    let name := Text.lower word
    if name = "on".toList then
      match rest with
      | [] => .error .senseless
      | behind :: rest =>
        match Console.color behind with
        | .ok background => addWords { style with background := some background } rest
        | .error fault => .error fault
    else if name = "not".toList then
      match rest with
      | [] => .error .senseless
      | negated :: rest =>
        match Attribute.ofWord? negated with
        | some quality =>
          addWords { style with attributes := (quality, false) :: style.attributes } rest
        | none => .error .senseless
    else if name = "link".toList then
      match rest with
      | [] => .error .senseless
      | target :: rest => addWords { style with link := some target } rest
    else
      match Attribute.ofWord? name with
      | some quality =>
        addWords { style with attributes := (quality, true) :: style.attributes } rest
      | none =>
        match Console.color word with
        | .ok color => addWords { style with color := some color } rest
        | .error fault => .error fault

def plainName : Text := "none"

/-- The style that a text defines. -/
def parse (definition : Text) : Except StyleFault Style :=
  if Text.trim definition = plainName then .ok {} else addWords {} (Text.words definition)

/-- The words of the normal form. -/
def words (style : Style) : List Text :=
  (Attribute.names.filterMap fun (name, quality) =>
    (style.attributes.lookup quality).map fun on => if on then name else "not ".toList ++ name) ++
    style.color.toList ++
    (style.background.map fun name => "on ".toList ++ name).toList ++
    (style.link.map fun target => "link ".toList ++ target).toList

def normalForm (style : Style) : Text :=
  if style.words.isEmpty then plainName else Text.join [' '] style.words

/-- The normal form of a definition. -/
def normalize (definition : Text) : Except StyleFault Text :=
  match parse definition with
  | .ok style => .ok style.normalForm
  | .error .senseless => .ok (Text.lower (Text.trim definition))
  | .error .unreadableNumber => .error .unreadableNumber

/-- Whether a definition can be looked up.  One that makes no sense can: it is the style without attributes. -/
def isReadable (definition : Text) : Bool :=
  match parse definition with
  | .error .unreadableNumber => false
  | _ => true

end Style

end SearchQuery.Console
