import SearchQuery.Reading.Range
import SearchQuery.Selector.Rule
import SearchQuery.Segment.Basic

/-!
# Field readers

A field reader serves one field: its rule says which segments are for the field, and its kind says how
their values are read.
-/

set_option autoImplicit false

namespace SearchQuery

inductive NumberForm where
  | number
  | duration
  | date
deriving DecidableEq

inductive ValueKind where
  | text (operator : Operator)
  | number (form : NumberForm)
  | duration
  | date
deriving DecidableEq

structure FieldReader where
  field : Field
  rule : Rule
  kind : ValueKind
deriving DecidableEq

def NumberForm.read : NumberForm → Text → Except ValueFault Bound
  | .number => Bound.readNumber
  | .duration => Bound.readDuration
  | .date => Bound.readDate

def ValueKind.name : ValueKind → Text
  | .text _ => "text"
  | .number _ => "number"
  | .duration => "duration"
  | .date => "date"

/-- Dates contain dashes, so that ranges of dates are divided by two dots. -/
def ValueKind.read (field : Field) : ValueKind → Text → Except ValueFault Query
  | .text operator, value => (TextMatch.read [field] operator value).map .text
  | .number form, value => (Range.read field form.read "-" value).map .range
  | .duration, value => (Range.read field Bound.readDuration "-" value).map .range
  | .date, value => (Range.read field Bound.readDate ".." value).map .range

namespace FieldReader

/-- Whether a segment with this selector is for the reader's field. -/
def claims (reader : FieldReader) : Option Text → Bool
  | none => false
  | some selector => reader.rule.designates selector

end FieldReader

/-- Why a search string has no query. -/
inductive CompileError where
  | malformed (error : SyntaxError)
  | empty (query : Text)
  | unknownSelector (selector rawText : Text)
  | conversion (field : Option Field) (rawText : Text) (cause : ValueFault)
  | fault (fault : QueryFault)
deriving DecidableEq

namespace CompileError

def message : CompileError → Text
  | .malformed e => e.message
  | .empty query => "Invalid search syntax in '" ++ query ++ "': query is empty"
  | .unknownSelector selector rawText =>
    "Unknown selector '" ++ selector ++ "' in '" ++ rawText ++ "'"
  | .conversion field rawText cause =>
    "Invalid " ++ (field.map Field.name).getD "text" ++ " value in '" ++ rawText ++ "': " ++
      cause.reason
  | .fault f => f.message

/-- A value that a field rejects is reported with its segment; only bounds that cannot be compared are
no matter of the value. -/
def ofValue (field : Option Field) (rawText : Text) : ValueFault → CompileError
  | .invalid .incomparableBounds => .fault .incomparableBounds
  | cause => .conversion field rawText cause

end CompileError

/-- The query for the value of a segment. -/
def FieldReader.convert (reader : FieldReader) (segment : Segment) : Except CompileError Query :=
  (reader.kind.read reader.field segment.value).mapError
    (CompileError.ofValue (some reader.field) segment.rawText)

end SearchQuery
