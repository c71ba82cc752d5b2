import SearchQuery.Proofs.Number.Literal
import SearchQuery.Proofs.Query.Shown

/-!
# Drafts after any calls

A draft is a record that calls change one after the other.  Whatever the calls are and in whichever order they come,
what is built at the end depends on few things: a part that calls set is as the last of them has set it, and a part to
which calls add is all that was added, in the order of the calls.  Fields that are added again are kept where they
came first, as they are when a compiler is made.
-/

set_option autoImplicit false

namespace SearchQuery

open SearchQuery.Text

/-! ## Runs of calls -/

section Runs

variable {σ γ α β : Type} {step : σ → γ → σ} (view : σ → α)

/-- What the last of the calls that set something has set it to. -/
def lastSet (sets : γ → Option α) (calls : List γ) : Option α :=
  (calls.filterMap sets).getLast?

/-- Where every call either sets a part or leaves it as it is, the part is as it was set last. -/
theorem view_foldl_of_sets {sets : γ → Option α}
    (each : ∀ state call, view (step state call) = (sets call).getD (view state)) (calls : List γ) (state : σ) :
    view (calls.foldl step state) = (lastSet sets calls).getD (view state) := by
  induction calls generalizing state with
  | nil => rfl
  | cons call calls ih =>
    rw [List.foldl_cons, ih, each, lastSet, lastSet, List.filterMap_cons]
    cases sets call with
    | none => rfl
    | some value => simp [List.getLast?_cons]

/-- Where every call adds to a part, the part is what it was with all additions in the order of the calls. -/
theorem view_foldl_of_adds {combine : α → List β → α} {adds : γ → List β} (empty : ∀ a, combine a [] = a)
    (append : ∀ a first second, combine (combine a first) second = combine a (first ++ second))
    (each : ∀ state call, view (step state call) = combine (view state) (adds call)) (calls : List γ) (state : σ) :
    view (calls.foldl step state) = combine (view state) (calls.flatMap adds) := by
  induction calls generalizing state with
  | nil => exact (empty _).symm
  | cons call calls ih => rw [List.foldl_cons, ih, each, append, List.flatMap_cons]

end Runs

/-! ## Texts -/

inductive TextCall where
  | addFields (fields : List Field)
  | setText (text : Text)
  | clearText
  | setOperator (operator : Operator)

namespace TextCall

def addedFields : TextCall → List Field
  | .addFields fields => fields
  | _ => []

def text? : TextCall → Option (Option Text)
  | .setText text => some (some text)
  | .clearText => some none
  | _ => none

def operator? : TextCall → Option Operator
  | .setOperator operator => some operator
  | _ => none

/-- All fields that the calls add, with repetitions. -/
def allFields (calls : List TextCall) : List Field :=
  calls.flatMap addedFields

def lastText (calls : List TextCall) : Option Text :=
  (lastSet text? calls).getD none

/-- All words have to match unless a call says otherwise. -/
def lastOperator (calls : List TextCall) : Operator :=
  (lastSet operator? calls).getD .all

/-- What building a text match gives after some calls. -/
structure Determine (calls : List TextCall) (outcome : Except QueryFault TextMatch) : Prop where
  builds : ∀ leaf, outcome = .ok leaf ↔ allFields calls ≠ [] ∧ ∃ text, lastText calls = some text ∧
    allBlank text = false ∧ leaf = ⟨(allFields calls).eraseDups, text, lastOperator calls⟩
  fails : (∃ fault, outcome = .error fault) ↔ allFields calls = [] ∨ lastText calls = none ∨
    ∃ text, lastText calls = some text ∧ allBlank text = true
  unrepeated : outcome ≠ .error .repeatedFields

end TextCall

namespace TextDraft

open SearchQuery.TextCall

def call (draft : TextDraft) : TextCall → TextDraft
  | .addFields fields => draft.addFields fields
  | .setText text => draft.setText text
  | .clearText => draft.clearText
  | .setOperator operator => draft.setOperator operator

/-- A new draft after some calls. -/
def after (calls : List TextCall) : TextDraft :=
  calls.foldl call {}

theorem fields_after (calls : List TextCall) : (after calls).fields = (allFields calls).eraseDups := by
  -- Adding fields in two steps is adding both lists in one, so that only the whole list matters.
  rw [← distinct_eq_eraseDups]
  refine view_foldl_of_adds TextDraft.fields (fun _ => rfl) (fun _ _ _ => List.foldl_append.symm) ?_ calls {}
  intro draft call
  cases call <;> rfl

theorem text_after (calls : List TextCall) : (after calls).text = lastText calls := by
  refine view_foldl_of_sets TextDraft.text ?_ calls {}
  intro draft call
  cases call <;> rfl

theorem operator_after (calls : List TextCall) : (after calls).operator = lastOperator calls := by
  refine view_foldl_of_sets TextDraft.operator ?_ calls {}
  intro draft call
  cases call <;> rfl

theorem build_after (calls : List TextCall) :
    (after calls).build =
      if allFields calls = [] then .error .fieldsUnset
      else match lastText calls with
        | none => .error .textUnset
        | some text =>
          if allBlank text then .error .blankText
          else .ok ⟨(allFields calls).eraseDups, text, lastOperator calls⟩ := by
  rw [build, fields_after, text_after, operator_after, ← distinct_eq_eraseDups]
  simp only [distinct_eq_nil_iff]
  split
  next => rfl
  next nonempty =>
    cases lastText calls with
    | none => rfl
    | some text => simp [TextMatch.make, distinct_eq_nil_iff, nonempty, nodup_distinct]

theorem determine_build_after (calls : List TextCall) : Determine calls (after calls).build := by
  rw [build_after]
  by_cases empty : allFields calls = []
  · rw [if_pos empty]
    constructor <;> simp [empty]
  · rw [if_neg empty]
    cases last : lastText calls with
    | none => constructor <;> simp [last]
    | some text =>
      change Determine calls (if allBlank text then .error .blankText else .ok _)
      by_cases blank : allBlank text = true
      · rw [if_pos blank]
        constructor <;> simp [last, blank]
      · have solid : allBlank text = false := Bool.eq_false_iff.2 blank
        rw [if_neg blank]
        refine ⟨fun leaf => ⟨?_, ?_⟩, by simp [empty, last, solid], by simp⟩
        · rintro ⟨⟩
          exact ⟨empty, text, last, solid, rfl⟩
        · rintro ⟨-, other, alsoLast, -, rfl⟩
          cases last.symm.trans alsoLast
          rfl

end TextDraft

/-! ## The order of bounds -/

namespace Bound

/-- The number for which a bound stands, which may be infinite, unless it is undefined or a date. -/
def extended? : Bound → Option (WithBot (WithTop ℚ))
  | .real (.infinite negative) => some (if negative then ⊥ else ⊤)
  | bound => bound.toRat?.map fun q => ((q : WithTop ℚ) : WithBot (WithTop ℚ))

/-- The first bound is a later date or a greater number than the second. -/
inductive Above : Bound → Bound → Prop
  | date {a b : Date} (later : b < a) : Above (.date a) (.date b)
  | number {low high : Bound} {p q : WithBot (WithTop ℚ)} (lowValue : low.extended? = some p)
      (highValue : high.extended? = some q) (greater : q < p) : Above low high

/-- An infinite bound, or one that stands for a rational number. -/
theorem extended?_cases {bound : Bound} {p : WithBot (WithTop ℚ)} (value : bound.extended? = some p) :
    (∃ q : ℚ, bound.toRat? = some q ∧ p = ((q : WithTop ℚ) : WithBot (WithTop ℚ))) ∨
      ∃ negative, bound = .real (.infinite negative) ∧ p = if negative then ⊥ else ⊤ := by
  cases bound with
  | integer n =>
    cases value
    exact .inl ⟨n, rfl, rfl⟩
  | date d => cases value
  | real x =>
    cases x with
    | finite negative mantissa exponent =>
      cases value
      exact .inl ⟨_, rfl, rfl⟩
    | infinite negative => exact .inr ⟨negative, rfl, (Option.some.inj value).symm⟩
    | nan => cases value

theorem exceeds?_infinite {bound : Bound} {p : ℚ} (value : bound.toRat? = some p) (negative : Bool) :
    bound.exceeds? (.real (.infinite negative)) = some negative ∧
      (real (.infinite negative)).exceeds? bound = some !negative := by
  cases bound with
  | integer n => exact ⟨rfl, rfl⟩
  | date d => cases value
  | real x =>
    cases x with
    | finite _ _ _ => exact ⟨rfl, rfl⟩
    | infinite _ => cases value
    | nan => cases value

theorem exceeds?_of_extended? {low high : Bound} {p q : WithBot (WithTop ℚ)} (lowValue : low.extended? = some p)
    (highValue : high.extended? = some q) : low.exceeds? high = some (decide (q < p)) := by
  rcases extended?_cases lowValue with ⟨a, lowRat, rfl⟩ | ⟨lowNegative, rfl, rfl⟩
  · rcases extended?_cases highValue with ⟨b, highRat, rfl⟩ | ⟨highNegative, rfl, rfl⟩
    · rw [exceeds?_of_toRat? lowRat highRat]
      simp
    · rw [(exceeds?_infinite lowRat highNegative).1]
      cases highNegative <;> simp
  · rcases extended?_cases highValue with ⟨b, highRat, rfl⟩ | ⟨highNegative, rfl, rfl⟩
    · rw [(exceeds?_infinite highRat lowNegative).2]
      cases lowNegative
      · exact congrArg some (decide_eq_true (WithBot.coe_lt_coe.2 (WithTop.coe_lt_top b))).symm
      · simp
    · cases lowNegative <;> cases highNegative <;> simp [exceeds?, Binary64.less]

theorem exists_extended? {bound : Bound} (notDate : bound.isDate = false) :
    bound = .real .nan ∨ ∃ p, bound.extended? = some p := by
  cases bound with
  | integer n => exact .inr ⟨_, rfl⟩
  | date d => cases notDate
  | real x =>
    cases x with
    | finite negative mantissa exponent => exact .inr ⟨_, rfl⟩
    | infinite negative => exact .inr ⟨_, rfl⟩
    | nan => exact .inl rfl

theorem exceeds?_nan (bound : Bound) :
    bound.exceeds? (.real .nan) ≠ some true ∧ (real .nan).exceeds? bound ≠ some true := by
  cases bound with
  | integer n => simp [exceeds?, Binary64.lessInt, Binary64.intLess]
  | real x => cases x <;> simp [exceeds?, Binary64.less]
  | date d => simp [exceeds?]

theorem isDate_eq_of_exceeds? {low high : Bound} {exceeds : Bool} (compared : low.exceeds? high = some exceeds) :
    low.isDate = high.isDate := by
  cases low <;> cases high <;> simp_all [isDate, exceeds?]

theorem above_of_exceeds? {low high : Bound} (exceeds : low.exceeds? high = some true) : low.Above high := by
  have alike := isDate_eq_of_exceeds? exceeds
  cases lowDate : low.isDate with
  | true =>
    cases low with
    | date a =>
      cases high with
      | date b => exact .date (Date.less_iff_lt.1 (Option.some.inj exceeds))
      | _ => cases alike
    | _ => cases lowDate
  | false =>
    -- Nothing lies above or below the undefined number, so both bounds have a value.
    rcases exists_extended? lowDate with rfl | ⟨p, lowValue⟩
    · exact absurd exceeds (exceeds?_nan high).2
    · rcases exists_extended? (alike.symm.trans lowDate) with rfl | ⟨q, highValue⟩
      · exact absurd exceeds (exceeds?_nan low).1
      · rw [exceeds?_of_extended? lowValue highValue, Option.some.injEq, decide_eq_true_eq] at exceeds
        exact .number lowValue highValue exceeds

theorem exceeds?_eq_some_true_iff {low high : Bound} : low.exceeds? high = some true ↔ low.Above high := by
  constructor
  · exact above_of_exceeds?
  · rintro (later | ⟨lowValue, highValue, greater⟩)
    · rw [exceeds?, Date.less_iff_lt.2 later]
    · rw [exceeds?_of_extended? lowValue highValue, decide_eq_true greater]

theorem exceeds?_eq_some_false_iff {low high : Bound} :
    low.exceeds? high = some false ↔ low.isDate = high.isDate ∧ ¬low.Above high := by
  rw [← exceeds?_eq_some_true_iff]
  constructor
  · intro compared
    exact ⟨isDate_eq_of_exceeds? compared, by simp [compared]⟩
  · rintro ⟨alike, notAbove⟩
    cases compared : low.exceeds? high with
    | none => exact absurd compared (exceeds?_ne_none alike)
    | some exceeds =>
      cases exceeds with
      | false => rfl
      | true => exact absurd compared notAbove

end Bound

/-! ## Ranges -/

/-- A part of the query is missing or wrong, as opposed to bounds that cannot be compared or cannot be written out. -/
def QueryFault.isInvalidPart : QueryFault → Bool
  | .incomparableBounds => false
  | .unwritableBound => false
  | _ => true

namespace Range

theorem isInvalidPart_crossed (low high : Bound) :
    (crossed low high).isInvalidPart = true ↔ low.IsShort ∧ high.IsShort := by
  rw [← Bound.isSome_write?_iff, ← Bound.isSome_write?_iff, crossed]
  cases low.write? <;> cases high.write? <;> simp [QueryFault.isInvalidPart]

theorem make_invalid_iff {field : Field} {min max : Option Bound} :
    (∃ fault, make field min max = .error fault ∧ fault.isInvalidPart = true) ↔ (min = none ∧ max = none) ∨
      ∃ low ∈ min, ∃ high ∈ max, low.Above high ∧ low.IsShort ∧ high.IsShort := by
  cases min with
  | none => cases max <;> simp [make, QueryFault.isInvalidPart]
  | some low =>
    cases max with
    | none => simp [make]
    | some high =>
      simp only [Option.mem_def, Option.some.injEq, exists_eq_left', reduceCtorEq, and_self, false_or,
        ← isInvalidPart_crossed, ← Bound.exceeds?_eq_some_true_iff]
      cases compared : low.exceeds? high with
      | none => simp [make, compared, QueryFault.isInvalidPart]
      | some exceeds => cases exceeds <;> simp [make, compared]

end Range

inductive RangeCall where
  | setField (field : Field)
  | setMin (bound : Option Bound)
  | setMax (bound : Option Bound)
  | setExact (bound : Option Bound)

namespace RangeCall

def field? : RangeCall → Option (Option Field)
  | .setField field => some (some field)
  | _ => none

def min? : RangeCall → Option (Option Bound)
  | .setMin bound => some bound
  | .setExact bound => some bound
  | _ => none

def max? : RangeCall → Option (Option Bound)
  | .setMax bound => some bound
  | .setExact bound => some bound
  | _ => none

def lastField (calls : List RangeCall) : Option Field :=
  (lastSet field? calls).getD none

def lastMin (calls : List RangeCall) : Option Bound :=
  (lastSet min? calls).getD none

def lastMax (calls : List RangeCall) : Option Bound :=
  (lastSet max? calls).getD none

/-- What building a range gives after some calls. -/
structure Determine (calls : List RangeCall) (outcome : Except QueryFault Range) : Prop where
  builds : ∀ range, outcome = .ok range ↔
    (∃ field, lastField calls = some field ∧ range = ⟨field, lastMin calls, lastMax calls⟩) ∧
      ((lastMin calls).isSome = true ∨ (lastMax calls).isSome = true) ∧
      ∀ low ∈ lastMin calls, ∀ high ∈ lastMax calls, low.isDate = high.isDate ∧ ¬low.Above high
  invalid : (∃ fault, outcome = .error fault ∧ fault.isInvalidPart = true) ↔
    lastField calls = none ∨ (lastMin calls = none ∧ lastMax calls = none) ∨
      ∃ low ∈ lastMin calls, ∃ high ∈ lastMax calls, low.Above high ∧ low.IsShort ∧ high.IsShort

end RangeCall

namespace RangeDraft

open SearchQuery.RangeCall

def call (draft : RangeDraft) : RangeCall → RangeDraft
  | .setField field => draft.setField field
  | .setMin bound => draft.setMin bound
  | .setMax bound => draft.setMax bound
  | .setExact bound => draft.setExact bound

/-- A new draft after some calls. -/
def after (calls : List RangeCall) : RangeDraft :=
  calls.foldl call {}

theorem field_after (calls : List RangeCall) : (after calls).field = lastField calls := by
  refine view_foldl_of_sets RangeDraft.field ?_ calls {}
  intro draft call
  cases call <;> rfl

theorem min_after (calls : List RangeCall) : (after calls).min = lastMin calls := by
  refine view_foldl_of_sets RangeDraft.min ?_ calls {}
  intro draft call
  cases call <;> rfl

theorem max_after (calls : List RangeCall) : (after calls).max = lastMax calls := by
  refine view_foldl_of_sets RangeDraft.max ?_ calls {}
  intro draft call
  cases call <;> rfl

theorem determine_build_after (calls : List RangeCall) : Determine calls (after calls).build := by
  rw [build, field_after, min_after, max_after]
  cases last : lastField calls with
  | none => constructor <;> simp [last, QueryFault.isInvalidPart]
  | some field =>
    constructor
    · intro range
      simp only [Range.make_eq_ok_iff, Bound.exceeds?_eq_some_false_iff, last, Option.some.injEq, exists_eq_left']
    · simp only [Range.make_invalid_iff, last, reduceCtorEq, false_or]

end RangeDraft

/-! ## Combinations -/

inductive BoolCall where
  | addMust (clauses : List Query)
  | addMustNot (clauses : List Query)
  | addShould (clauses : List Query)

namespace BoolCall

def must : BoolCall → List Query
  | .addMust clauses => clauses
  | _ => []

def mustNot : BoolCall → List Query
  | .addMustNot clauses => clauses
  | _ => []

def should : BoolCall → List Query
  | .addShould clauses => clauses
  | _ => []

/-- What building a combination gives after some calls. -/
structure Determine (calls : List BoolCall) (outcome : Except QueryFault Query) : Prop where
  builds : ∀ query, outcome = .ok query ↔
    query = .bool (calls.flatMap must) (calls.flatMap mustNot) (calls.flatMap should) ∧
      ¬(calls.flatMap must = [] ∧ calls.flatMap mustNot = [] ∧ calls.flatMap should = [])
  fails : (∃ fault, outcome = .error fault) ↔
    calls.flatMap must = [] ∧ calls.flatMap mustNot = [] ∧ calls.flatMap should = []

end BoolCall

namespace BoolDraft

open SearchQuery.BoolCall

def call (draft : BoolDraft) : BoolCall → BoolDraft
  | .addMust clauses => draft.addMust clauses
  | .addMustNot clauses => draft.addMustNot clauses
  | .addShould clauses => draft.addShould clauses

/-- A new draft after some calls. -/
def after (calls : List BoolCall) : BoolDraft :=
  calls.foldl call {}

theorem must_after (calls : List BoolCall) : (after calls).must = calls.flatMap BoolCall.must := by
  refine view_foldl_of_adds BoolDraft.must List.append_nil List.append_assoc ?_ calls {}
  intro draft call
  cases call <;> simp [BoolDraft.call, addMust, addMustNot, addShould, BoolCall.must]

theorem mustNot_after (calls : List BoolCall) : (after calls).mustNot = calls.flatMap BoolCall.mustNot := by
  refine view_foldl_of_adds BoolDraft.mustNot List.append_nil List.append_assoc ?_ calls {}
  intro draft call
  cases call <;> simp [BoolDraft.call, addMust, addMustNot, addShould, BoolCall.mustNot]

theorem should_after (calls : List BoolCall) : (after calls).should = calls.flatMap BoolCall.should := by
  refine view_foldl_of_adds BoolDraft.should List.append_nil List.append_assoc ?_ calls {}
  intro draft call
  cases call <;> simp [BoolDraft.call, addMust, addMustNot, addShould, BoolCall.should]

theorem determine_build_after (calls : List BoolCall) : Determine calls (after calls).build := by
  rw [build, must_after, mustNot_after, should_after, Query.makeBool]
  by_cases empty : calls.flatMap BoolCall.must = [] ∧ calls.flatMap BoolCall.mustNot = [] ∧
      calls.flatMap BoolCall.should = []
  · rw [if_pos (by simp [empty])]
    constructor <;> simp [empty]
  · rw [if_neg (by simpa [and_assoc] using empty)]
    constructor
    · intro query
      rw [and_iff_left empty, Except.ok.injEq]
      exact eq_comm
    · constructor
      · rintro ⟨fault, ⟨⟩⟩
      · intro allEmpty
        exact absurd allEmpty empty

end BoolDraft

/-! ## What is built -/

theorem Compiler.map_defaultFields_make (registry : Registry) (fields : List Field) :
    (make registry fields).map (·.defaultFields) =
      if fields = [] then .error .noDefaultFields else .ok fields.eraseDups := by
  rw [make]
  by_cases empty : fields = []
  · rw [if_pos empty, dif_pos (by rw [empty]; rfl)]
    rfl
  · rw [if_neg empty, dif_neg (mt distinct_eq_nil_iff.1 empty), ← distinct_eq_eraseDups]
    rfl

/-- Calls on drafts count only by what they add in all and by what they set last.  The fields that a draft keeps are
those that a compiler keeps of the same list, whichever way the list is divided among calls. -/
theorem build_after_calls (texts : List TextCall) (ranges : List RangeCall) (bools : List BoolCall)
    (registry : Registry) :
    TextCall.Determine texts (TextDraft.after texts).build ∧
    RangeCall.Determine ranges (RangeDraft.after ranges).build ∧
    BoolCall.Determine bools (BoolDraft.after bools).build ∧
    (Compiler.make registry (TextCall.allFields texts)).map (·.defaultFields) =
      if TextCall.allFields texts = [] then .error .noDefaultFields else .ok (TextDraft.after texts).fields := by
  refine ⟨TextDraft.determine_build_after texts, RangeDraft.determine_build_after ranges,
    BoolDraft.determine_build_after bools, ?_⟩
  rw [Compiler.map_defaultFields_make, TextDraft.fields_after]

end SearchQuery
