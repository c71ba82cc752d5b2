import SearchQuery.Console.Print

/-!
# Drawing tables

A table of marked-up cells under a title and a header row, drawn with ruled lines.  Every column is as
wide as its widest cell, unless the console is too narrow for that: then the widest columns are made narrower, and
their cells take several lines.  The title is centred over the whole, an odd blank going to the right.
-/

set_option autoImplicit false

namespace SearchQuery.Grid

open SearchQuery.Console

/-! ## Widths of columns -/

/-- The columns of a console that a cell needs, with a blank on either side. -/
def cellWidth (cell : Line) : Nat :=
  (cell.splitAtFeeds.map fun line => width line.text).foldl Nat.max 0 + 2

/-- The width of every column, taken over all rows. -/
def neededWidths (header : List Line) (rows : List (List Line)) : List Nat :=
  rows.foldl (fun widths row => List.zipWith Nat.max widths (row.map cellWidth))
    (header.map cellWidth)

/-- The quotient rounded to the nearest number, a half to the even one. -/
def roundedQuotient (dividend divisor : Nat) : Nat :=
  let quotient := dividend / divisor
  let twice := 2 * (dividend % divisor)
  if twice < divisor || (twice = divisor && quotient % 2 = 0) then quotient else quotient + 1

/-- Takes an excess from the columns of one width, of which there are some left, in equal shares that are limited. -/
def reduce (widest limit : Nat) (excess left : Nat) : List Nat → List Nat
  | [] => []
  | columns :: rest =>
    if columns = widest && left ≠ 0 then
      let share := min limit (roundedQuotient excess left)
      (columns - share) :: reduce widest limit (excess - share) (left - 1) rest
    else columns :: reduce widest limit excess left rest

def total (widths : List Nat) : Nat :=
  widths.foldl (· + ·) 0

/-- Makes the widest columns narrower, at first no narrower than the next ones, until all fit in some columns or no
steps are left. -/
def narrow (room : Nat) : (steps : Nat) → List Nat → List Nat
  | 0, widths => widths
  | steps + 1, widths =>
    let excess := total widths - room
    if excess = 0 then widths
    else
      let widest := widths.foldl Nat.max 0
      let next := (widths.filter (· ≠ widest)).foldl Nat.max 0
      let limit := min excess (widest - next)
      narrow room steps (reduce widest limit excess (widths.count widest) widths)

/-- The width of every column in a table that may take some columns.  There is a rule beside each of them. -/
def columnWidths (columns : Nat) (header : List Line) (rows : List (List Line)) : List Nat :=
  let room := columns - (header.length + 1)
  let widths := (neededWidths header rows).map (min room)
  narrow room (total widths) widths

/-! ## Drawing -/

def rule (left line cross right : Char) (widths : List Nat) : Text :=
  left :: Text.join [cross] (widths.map fun columns => List.replicate columns line) ++ [right]

/-- The lines of a cell in a column, or nothing if a style cannot be looked up. -/
def block? (columns : Nat) (cell : Line) : Option (List Text) :=
  let lines := (cell.layout (columns - 2) .ellipsis).map (Line.pad (columns - 2))
  if Line.areReadable lines then
    some (lines.map fun line =>
      let filled := fillStretches (columns - 2) line.stretches
      (fillStretches columns ([' '] :: filled ++ [[' ']])).flatten)
  else none

/-- The lines of a row of cells. -/
def rowLines? (edge : Char) (widths : List Nat) (cells : List Line) : Option (List Text) := do
  let blocks ← (List.zip widths cells).mapM fun (columns, cell) => block? columns cell
  let height := (blocks.map List.length).foldl Nat.max 0
  return (List.range height).map fun index =>
    let parts := List.zipWith (fun columns block => block.getD index (blanks columns)) widths blocks
    edge :: Text.join [edge] parts ++ [edge]

def center (columns : Nat) (title : Text) : Text :=
  let spare := columns - width title
  blanks (spare / 2) ++ title ++ blanks (spare - spare / 2)

/-- The lines of a table that may take some columns. -/
def lines? (columns : Nat) (title : Text) (header : List Line) (rows : List (List Line)) :
    Option (List Text) := do
  let widths := columnWidths columns header rows
  let top := rule '┏' '━' '┳' '┓' widths
  let headerLines ← rowLines? '┃' widths header
  let body ← rows.mapM (rowLines? '│' widths)
  return [center top.length title, top] ++ headerLines ++ [rule '┡' '━' '╇' '┩' widths] ++
    body.flatten ++ [rule '└' '─' '┴' '┘' widths]

/-- The printed table.  All cells are rendered before any of them is displayed. -/
def print (title : Text) (header : List Text) (rows : List (List Text)) : Except Markup.Fault Text := do
  let rendered ← rows.mapM fun cells => cells.mapM Markup.render
  let cells := rendered.map fun cells => cells.map Line.ofRendering
  match lines? allColumns title (header.map fun text => ⟨text, []⟩) cells with
  | some lines => return printed lines
  | none => throw .unreadableNumber

end SearchQuery.Grid
