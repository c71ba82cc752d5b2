import SearchQuery.Query.Basic

/-!
# Drafts

A draft collects the parts of a query one by one; building it checks that every required part is
there.  A draft that was built may be changed and built again.
-/

set_option autoImplicit false

namespace SearchQuery

structure TextDraft where
  fields : List Field := []
  text : Option Text := none
  operator : Operator := .all

namespace TextDraft

/-- Adds the fields that are not there yet. -/
def addFields (draft : TextDraft) (fields : List Field) : TextDraft :=
  { draft with
    fields := fields.foldl (fun seen field => if field ∈ seen then seen else seen ++ [field])
      draft.fields }

def setText (draft : TextDraft) (text : Text) : TextDraft :=
  { draft with text := some text }

def clearText (draft : TextDraft) : TextDraft :=
  { draft with text := none }

def setOperator (draft : TextDraft) (operator : Operator) : TextDraft :=
  { draft with operator := operator }

def build (draft : TextDraft) : Except QueryFault TextMatch :=
  if draft.fields = [] then .error .fieldsUnset
  else
    match draft.text with
    | none => .error .textUnset
    | some text => TextMatch.make draft.fields text draft.operator

end TextDraft

structure RangeDraft where
  field : Option Field := none
  min : Option Bound := none
  max : Option Bound := none

namespace RangeDraft

def setField (draft : RangeDraft) (field : Field) : RangeDraft :=
  { draft with field := some field }

def setMin (draft : RangeDraft) (bound : Option Bound) : RangeDraft :=
  { draft with min := bound }

def setMax (draft : RangeDraft) (bound : Option Bound) : RangeDraft :=
  { draft with max := bound }

def setExact (draft : RangeDraft) (bound : Option Bound) : RangeDraft :=
  { draft with min := bound, max := bound }

def build (draft : RangeDraft) : Except QueryFault Range :=
  match draft.field with
  | none => .error .fieldUnset
  | some field => Range.make field draft.min draft.max

end RangeDraft

structure BoolDraft where
  must : List Query := []
  mustNot : List Query := []
  should : List Query := []

namespace BoolDraft

def addMust (draft : BoolDraft) (clauses : List Query) : BoolDraft :=
  { draft with must := draft.must ++ clauses }

def addMustNot (draft : BoolDraft) (clauses : List Query) : BoolDraft :=
  { draft with mustNot := draft.mustNot ++ clauses }

def addShould (draft : BoolDraft) (clauses : List Query) : BoolDraft :=
  { draft with should := draft.should ++ clauses }

def build (draft : BoolDraft) : Except QueryFault Query :=
  Query.makeBool draft.must draft.mustNot draft.should

end BoolDraft

end SearchQuery
