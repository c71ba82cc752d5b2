import SearchQuery.Calendar.Moment
import SearchQuery.Number.Shortest
import SearchQuery.Text.Quoted

/-!
# Documents

A document is a tree of plain values: the form in which queries are handed on and configurations are
read and written.  Tables keep the order of their entries.
-/

set_option autoImplicit false

namespace SearchQuery

inductive Value where
  | null
  | bool (b : Bool)
  | integer (n : Int)
  | real (x : Binary64)
  | text (s : Text)
  | moment (m : Moment)
  | list (items : List Value)
  | table (entries : List (Text × Value))
deriving Inhabited

namespace Value

open SearchQuery.Text SearchQuery.Numeral

/-- The texts of a list that holds only texts. -/
def texts? : List Value → Option (List Text)
  | [] => some []
  | .text s :: rest => (texts? rest).map (s :: ·)
  | _ :: _ => none

mutual

/-- The value as a literal that names its every character and digit, unless it holds an integer of
too many digits. -/
def literal? : Value → Option Text
  | .null => some "None"
  | .bool b => some (if b then "True" else "False" : String).toList
  | .integer n => writeInteger? n
  | .real x => some x.write
  | .text s => some (quoted s)
  | .moment m => some m.writeIso
  | .list items => (literals? items).map fun parts => '[' :: join ", " parts ++ "]"
  | .table entries => (entryLiterals? entries).map fun parts => '\x7b' :: join ", " parts ++ "\x7d"

def literals? : List Value → Option (List Text)
  | [] => some []
  | item :: rest => do
    let first ← literal? item
    let more ← literals? rest
    return first :: more

def entryLiterals? : List (Text × Value) → Option (List Text)
  | [] => some []
  | (key, value) :: rest => do
    let first ← literal? value
    let more ← entryLiterals? rest
    return (quoted key ++ ": " ++ first) :: more

end

end Value

end SearchQuery
