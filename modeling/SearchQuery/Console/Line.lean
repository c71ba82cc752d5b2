import SearchQuery.Console.Markup
import SearchQuery.Console.Wrap

/-!
# Lines

A line of a console is a text with spans that have styles.  Dividing a line divides its spans, and a span that
shows nothing in a part is lost there.  A line is printed stretch by stretch, from one end of a span to the next, and
the columns of the stretches are counted one by one.
-/

set_option autoImplicit false

namespace SearchQuery.Console

open SearchQuery.Markup (Span)

structure Line where
  text : Text
  spans : List Span := []
deriving DecidableEq

/-- The controls from bell to carriage return, tab and line feed apart. -/
def isCursorControl (c : Char) : Bool :=
  c = '\x07' || c = '\x08' || c = '\x0b' || c = '\x0c' || c = '\x0d'

/-- The text without the controls that would move the cursor. -/
def withoutCursorControls (s : Text) : Text :=
  s.filter (!isCursorControl ·)

namespace Line

/-- What a console can show of rendered text. -/
def ofRendering (rendering : Markup.Rendering) : Line where
  text := withoutCursorControls rendering.text
  spans := rendering.spans.map fun span =>
    { span with
      start := (withoutCursorControls (rendering.text.take span.start)).length
      stop := (withoutCursorControls (rendering.text.take span.stop)).length }

/-! ## Parts -/

/-- The spans that show something between two positions, as spans of the part there. -/
def spansBetween (spans : List Span) (start stop : Nat) : List Span :=
  spans.filterMap fun span =>
    let first := max span.start start
    let last := min span.stop stop
    if first < last then some { span with start := first - start, stop := last - start } else none

/-- The parts between positions of a text that follows a position. -/
def partsFrom (spans : List Span) (start : Nat) (text : Text) : List Nat → List Line
  | [] => [⟨text, spansBetween spans start (start + text.length)⟩]
  | stop :: positions =>
    ⟨text.take (stop - start), spansBetween spans start stop⟩ ::
      partsFrom spans stop (text.drop (stop - start)) positions

theorem flatMap_partsFrom (spans : List Span) (start : Nat) (text : Text) (positions : List Nat) :
    (partsFrom spans start text positions).flatMap Line.text = text := by
  induction positions generalizing start text with
  | nil => simp [partsFrom]
  | cons stop positions ih => simp [partsFrom, ih]

/-- The parts of a line between positions. -/
def divide (line : Line) (positions : List Nat) : List Line :=
  if positions.isEmpty then [line] else partsFrom line.spans 0 line.text positions

/-- The positions of a character in a text that follows a position. -/
def positionsFrom (position : Nat) (sought : Char) : Text → List Nat
  | [] => []
  | c :: rest =>
    if c = sought then position :: positionsFrom (position + 1) sought rest
    else positionsFrom (position + 1) sought rest

/-- The parts of a line between its line feeds. -/
def splitAtFeeds (line : Line) : List Line :=
  let feeds := positionsFrom 0 '\n' line.text
  (line.divide (feeds.flatMap fun position => [position, position + 1])).filter (·.text ≠ ['\n'])

/-- Two lines as one. -/
def append (line more : Line) : Line where
  text := line.text ++ more.text
  spans := line.spans ++ more.spans.map fun span =>
    { span with start := span.start + line.text.length, stop := span.stop + line.text.length }

/-- A line without the text behind a position. -/
def trim (line : Line) (position : Nat) : Line where
  text := line.text.take position
  spans := (line.spans.filter (·.start < position)).map fun span =>
    { span with stop := min span.stop position }

/-! ## Tabs -/

def tabStop : Nat := 8

/-- The parts of a line behind its tabs, from a column on, with blanks for the tabs.  A tab takes one column at
least, and spans that reach a tab reach over its blanks. -/
def fillTabs (column : Nat) : List Line → List Line
  | [] => []
  | part :: rest =>
    if part.text.getLast? = some '\t' then
      let body := part.text.dropLast ++ [' ']
      let reached := column + width body
      let spare := (tabStop - reached % tabStop) % tabStop
      let spans := part.spans.map fun span =>
        if span.stop = body.length then { span with stop := span.stop + spare } else span
      ⟨body ++ blanks spare, spans⟩ :: fillTabs (reached + spare) rest
    else part :: fillTabs (column + width part.text) rest

/-- A line without tabs. -/
def expandTabs (line : Line) : Line :=
  if line.text.contains '\t' then
    let parts := line.divide ((positionsFrom 0 '\t' line.text).map (· + 1))
    (fillTabs 0 parts).foldr append ⟨[], []⟩
  else line

/-! ## Fitting -/

/-- A line without the blanks at its end that go beyond some characters. -/
def dropSpareBlanks (count : Nat) (line : Line) : Line :=
  let blanks := line.text.length - (Text.trimEnd line.text).length
  let spare := min blanks (line.text.length - count)
  if spare = 0 then line else line.trim (line.text.length - spare)

/-- A line with another text.  Spans are shortened along with it. -/
def withText (line : Line) (s : Text) : Line where
  text := s
  spans := if s.length < line.text.length then (line.trim s.length).spans else line.spans

/-- A line cut to some columns. -/
def shorten (columns : Nat) (overflow : Overflow) (line : Line) : Line :=
  if width line.text ≤ columns then line
  else
    match overflow with
    | .fold => line.withText (fit columns line.text)
    | .ellipsis => line.withText (fit (columns - 1) line.text ++ ['…'])

/-- The lines that a line takes in some columns. -/
def wrap (columns : Nat) (overflow : Overflow) (line : Line) : List Line :=
  let line := line.expandTabs
  (line.divide (breaks columns overflow line.text)).map fun part =>
    shorten columns overflow (dropSpareBlanks columns part)

/-- The lines that a text with line feeds takes in some columns. -/
def layout (columns : Nat) (overflow : Overflow) (line : Line) : List Line :=
  line.splitAtFeeds.flatMap (wrap columns overflow)

/-- A line filled up with blanks to some columns. -/
def pad (columns : Nat) (line : Line) : Line :=
  { line with text := line.text ++ blanks (columns - width line.text) }

/-- Whether all styles can be looked up. -/
def areReadable (lines : List Line) : Bool :=
  lines.all fun line => line.spans.all fun span => span.style.all Style.isReadable

/-! ## Stretches -/

/-- The stretches of a text between positions, its first character having a position itself. -/
def cutAt (cuts : List Nat) (position : Nat) : Text → List Text
  | [] => [[]]
  | c :: rest =>
    match cutAt cuts (position + 1) rest with
    | [] => [[c]]
    | part :: more => if position + 1 ∈ cuts then [c] :: part :: more else (c :: part) :: more

/-- The stretches of a line between the ends of its spans. -/
def stretches (line : Line) : List Text :=
  if line.spans.isEmpty then [line.text]
  else cutAt (line.spans.flatMap fun span => [span.start, span.stop]) 0 line.text

end Line

/-- The columns that stretches take. -/
def stretchColumns (stretches : List Text) : Nat :=
  stretches.foldl (fun taken part => taken + width part) 0

/-- The first stretches, the last of them cut so that they take some columns. -/
def cropStretches (columns : Nat) : List Text → List Text
  | [] => []
  | part :: rest =>
    if width part < columns then part :: cropStretches (columns - width part) rest
    else [fit columns part]

/-- The stretches of a line that may take some columns. -/
def limitStretches (columns : Nat) (stretches : List Text) : List Text :=
  if columns < stretchColumns stretches then cropStretches columns stretches else stretches

/-- The stretches of a line that has to take some columns. -/
def fillStretches (columns : Nat) (stretches : List Text) : List Text :=
  let taken := stretchColumns stretches
  if taken < columns then stretches ++ [blanks (columns - taken)] else limitStretches columns stretches

end SearchQuery.Console
