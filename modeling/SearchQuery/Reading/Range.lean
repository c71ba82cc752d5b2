import SearchQuery.Query.Draft
import SearchQuery.Reading.Bound

/-!
# Reading ranges and texts

A range is spelled `a`, `a-b`, `a-` or `-b`, with a separator of its own for dates.  A separator right
after an exponent mark, or after the end of another separator, is the sign of the number that follows
and divides nothing.  A leading separator divides only if no later one does.
-/

set_option autoImplicit false

namespace SearchQuery

open SearchQuery.Text

namespace Range

/-- Whether a separator may divide a range behind this character. -/
def dividesAfter (separator : Text) : Option Char → Bool
  | none => true
  | some c => !(c = 'e' || c = 'E' || separator.getLast? = some c)

/-- The places at which a separator may divide a text, counted from `index`. -/
def dividers (separator : Text) (index : Nat) (previous : Option Char) : Text → List Nat
  | [] => []
  | c :: rest =>
    let later := dividers separator (index + 1) (some c) rest
    if separator.isPrefixOf (c :: rest) && dividesAfter separator previous then index :: later
    else later

/-- The place at which a separator divides a text, if any. -/
def divider? (separator text : Text) : Option Nat :=
  let places := dividers separator 0 none text
  places.find? (0 < ·) <|> places.head?

/-- A bound that was left out, or one that has to be readable. -/
def readSide (read : Text → Except ValueFault Bound) (text : Text) :
    Except ValueFault (Option Bound) :=
  if text.isEmpty then .ok none else (read text).map some

def draftBuild (draft : RangeDraft) : Except ValueFault Range :=
  draft.build.mapError .invalid

def read (field : Field) (bound : Text → Except ValueFault Bound) (separator text : Text) :
    Except ValueFault Range :=
  let body := trim text
  if body.isEmpty then .error .valueRequired
  else
    match divider? separator body with
    | none => do
      let exact ← bound body
      draftBuild ((RangeDraft.mk (some field) none none).setExact (some exact))
    | some index =>
      let low := trim (body.take index)
      let high := trim (body.drop (index + separator.length))
      if low.isEmpty && high.isEmpty then .error .boundRequired
      else do
        let min ← readSide bound low
        let max ← readSide bound high
        draftBuild ⟨some field, min, max⟩

end Range

namespace TextMatch

/-- A text match against some fields, for text that is not blank. -/
def read (fields : List Field) (operator : Operator) (text : Text) : Except ValueFault TextMatch :=
  if allBlank text then .error .textRequired
  else
    ((({} : TextDraft).addFields fields).setText text |>.setOperator operator).build.mapError .invalid

end TextMatch

end SearchQuery
