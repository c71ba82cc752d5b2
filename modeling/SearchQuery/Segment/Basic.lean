import SearchQuery.Segment.Piece
import SearchQuery.Text.Digit

/-!
# Segments

The segments of a search string are its stretches between gaps.  A leading dash negates a segment unless
it is the whole segment, and the first separator divides the selector from the value.  Positions of
faults are columns: they count from the last line feed, and blanks before the string count in.
-/

set_option autoImplicit false

namespace SearchQuery

structure Segment where
  rawText : Text
  selector : Option Text
  value : Text
  negated : Bool
deriving DecidableEq

/-- A search string that cannot be cut into segments. -/
structure SyntaxError where
  query : Text
  fault : SyntaxFault
  column : Nat
deriving DecidableEq

def SyntaxError.message (e : SyntaxError) : Text :=
  "Invalid search syntax in '" ++ e.query ++ "': " ++ e.fault.reason ++ " at column " ++
    Text.decimal e.column

namespace Piece

/-- Takes the negating dash off a segment's pieces, if there is one. -/
def takeNegation : List Piece → Bool × List Piece
  | [.bare ['-']] => (false, [.bare ['-']])
  | .bare ['-'] :: rest => (true, rest)
  | .bare ('-' :: run) :: rest => (true, .bare run :: rest)
  | pieces => (false, pieces)

def contents (pieces : List Piece) : Text :=
  pieces.flatMap content

/-- Selector and value of a segment's pieces, the dash apart. -/
def divide (pieces : List Piece) : Option Text × Text :=
  match pieces.dropWhile (· ≠ .separator) with
  | [] => (none, contents pieces)
  | _ :: after =>
    let selector := contents (pieces.takeWhile (· ≠ .separator))
    (if selector.isEmpty then none else some selector, contents after)

/-- The stretches of pieces between gaps. -/
def stretches : List Piece → List (List Piece)
  | [] => [[]]
  | .gap _ :: rest => [] :: stretches rest
  | piece :: rest =>
    match stretches rest with
    | [] => [[piece]]
    | stretch :: more => (piece :: stretch) :: more

end Piece

namespace Segment

open SearchQuery.Text

def ofPieces (pieces : List Piece) : Segment :=
  let (negated, body) := Piece.takeNegation pieces
  let (selector, value) := Piece.divide body
  { rawText := pieces.flatMap Piece.raw, selector, value, negated }

/-- One more than the number of characters since the last line feed. -/
def columnAfter (before : Text) : Nat :=
  (before.reverse.takeWhile (· ≠ '\n')).length + 1

/-- The segments of a search string; a blank string has none. -/
def split (query : Text) : Except SyntaxError (List Segment) :=
  let body := trim query
  if body.isEmpty then .ok []
  else
    match Piece.cut body with
    | .error (fault, rest) =>
      let before := body.take (body.length - rest.length)
      let indent := query.length - (trimStart query).length
      .error ⟨query, fault, columnAfter before + indent⟩
    | .ok pieces => .ok ((Piece.stretches pieces).map ofPieces)

end Segment

end SearchQuery
