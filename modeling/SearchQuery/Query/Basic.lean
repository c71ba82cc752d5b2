import SearchQuery.Document.Value
import SearchQuery.Query.Field
import SearchQuery.Text.Blank

/-!
# Queries

A query is a text match, a range, or a combination of queries.  Whoever assembles a combination by hand
may put any value in the place of a clause; such a foreign clause is kept until the query is handed on.
The `make` functions check what a well-formed query needs.
-/

set_option autoImplicit false

namespace SearchQuery

/-! ## Bounds -/

inductive Bound where
  | integer (n : Int)
  | real (x : Binary64)
  | date (d : Date)
deriving DecidableEq

namespace Bound

/-- The bound as plain text, unless it is an integer of too many digits. -/
def write? : Bound → Option Text
  | .integer n => Numeral.writeInteger? n
  | .real x => some x.write
  | .date d => some d.writeIso

/-- Whether the first bound lies above the second, if they can be compared. -/
def exceeds? : Bound → Bound → Option Bool
  | .integer a, .integer b => some (decide (b < a))
  | .integer a, .real b => some (b.lessInt a)
  | .real a, .integer b => some (Binary64.intLess b a)
  | .real a, .real b => some (b.less a)
  | .date a, .date b => some (b.less a)
  | _, _ => none

def toValue : Bound → Value
  | .integer n => .integer n
  | .real x => .real x
  | .date d => .text d.writeIso

end Bound

/-! ## Nodes -/

structure TextMatch where
  fields : List Field
  text : Text
  operator : Operator
deriving DecidableEq

/-- An inclusive range; a missing bound leaves its side open. -/
structure Range where
  field : Field
  min : Option Bound
  max : Option Bound
deriving DecidableEq

inductive Query where
  | text (leaf : TextMatch)
  | range (leaf : Range)
  | bool (must mustNot should : List Query)
  | foreign (value : Value)

/-! ## Faults -/

/-- What is wrong with the parts of a query. -/
inductive QueryFault where
  | noFields
  | repeatedFields
  | blankText
  | noBounds
  | crossedBounds (low high : Text)
  | incomparableBounds
  | unwritableBound
  | noClauses
  | fieldsUnset
  | textUnset
  | fieldUnset
  | noDefaultFields
deriving DecidableEq

namespace QueryFault

/-- The part that a fault is about. -/
def part : QueryFault → Text
  | .noFields | .repeatedFields | .fieldsUnset => "fields"
  | .blankText | .textUnset => "text"
  | .noBounds | .crossedBounds _ _ | .incomparableBounds | .unwritableBound => "range"
  | .noClauses => "bool"
  | .fieldUnset => "field"
  | .noDefaultFields => "default_fields"

def reason : QueryFault → Text
  | .noFields => "at least one field is required"
  | .repeatedFields => "fields must not repeat"
  | .blankText => "text must not be empty"
  | .noBounds => "at least one bound is required"
  | .crossedBounds low high => "lower bound " ++ low ++ " exceeds upper bound " ++ high
  | .incomparableBounds => "the bounds cannot be compared"
  | .unwritableBound => Numeral.tooLongToWrite
  | .noClauses => "at least one clause is required"
  | .fieldsUnset => "no fields specified"
  | .textUnset => "no text specified"
  | .fieldUnset => "no field specified"
  | .noDefaultFields => "at least one is required"

def message (fault : QueryFault) : Text :=
  "Invalid " ++ fault.part ++ ": " ++ fault.reason

end QueryFault

/-! ## Checked construction -/

def TextMatch.make (fields : List Field) (text : Text) (operator : Operator) :
    Except QueryFault TextMatch :=
  if fields = [] then .error .noFields
  else if ¬ fields.Nodup then .error .repeatedFields
  else if Text.allBlank text then .error .blankText
  else .ok ⟨fields, text, operator⟩

/-- The complaint about a lower bound above the upper one, for which both have to be written out. -/
def Range.crossed (low high : Bound) : QueryFault :=
  match low.write?, high.write? with
  | some lowText, some highText => .crossedBounds lowText highText
  | _, _ => .unwritableBound

def Range.make (field : Field) (min max : Option Bound) : Except QueryFault Range :=
  match min, max with
  | none, none => .error .noBounds
  | some low, some high =>
    match low.exceeds? high with
    | none => .error .incomparableBounds
    | some true => .error (crossed low high)
    | some false => .ok ⟨field, min, max⟩
  | _, _ => .ok ⟨field, min, max⟩

def Query.makeBool (must mustNot should : List Query) : Except QueryFault Query :=
  if must.isEmpty && mustNot.isEmpty && should.isEmpty then .error .noClauses
  else .ok (.bool must mustNot should)

end SearchQuery
