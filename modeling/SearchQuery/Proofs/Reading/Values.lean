import Mathlib.Data.Prod.Lex
import SearchQuery.Proofs.Outcome
import SearchQuery.Proofs.Text.Trim
import SearchQuery.Reading.FieldReader

/-!
# What reading a value gives

A range is made from bounds that were read one by one, so that what holds of every bound that can be read
holds of the bounds of a range.  A text that is not blank always gives a text match.  The bounds of one kind of
value can always be compared, which leaves no fault that is not a matter of the value.
-/

set_option autoImplicit false

namespace SearchQuery

open SearchQuery.Text

/-! ## The order of dates -/

namespace Date

/-- Dates are compared by year, then by month, then by day. -/
def key (d : Date) : ℕ ×ₗ ℕ ×ₗ ℕ :=
  toLex (d.year, toLex (d.month, d.day))

theorem key_injective : Function.Injective key := by
  intro a b same
  obtain ⟨year, month, day, _⟩ := a
  obtain ⟨otherYear, otherMonth, otherDay, _⟩ := b
  simpa [key] using same

instance : LinearOrder Date :=
  LinearOrder.lift' key key_injective

theorem less_iff_lt {a b : Date} : a.less b = true ↔ a < b := by
  change _ ↔ a.key < b.key
  simp [less, key, Prod.Lex.toLex_lt_toLex]

end Date

/-! ## Bounds -/

namespace Bound

def isDate : Bound → Bool
  | .date _ => true
  | _ => false

theorem exceeds?_ne_none {low high : Bound} (alike : low.isDate = high.isDate) :
    low.exceeds? high ≠ none := by
  cases low <;> cases high <;> simp_all [isDate, exceeds?]

/-- What a way of reading bounds keeps to: all its bounds are dates or none is, and what it complains about
is the text. -/
structure Uniform (read : Text → Except ValueFault Bound) : Prop where
  alike : ∃ dated, ∀ text bound, read text = .ok bound → bound.isDate = dated
  ofText : ∀ text fault, read text ≠ .error (.invalid fault)

theorem uniform_readNumber : Uniform readNumber := by
  refine ⟨⟨false, ?_⟩, ?_⟩
  · intro text bound success
    rw [readNumber] at success
    split at success
    next => cases success; rfl
    next =>
      split at success
      next => cases success
      next =>
        split at success
        next => cases success; rfl
        next => cases success
  · intro text fault failure
    rw [readNumber] at failure
    split at failure
    next => cases failure
    next =>
      split at failure
      next => cases failure
      next => split at failure <;> cases failure

theorem readDuration_eq_ok {text : Text} {bound : Bound} (success : readDuration text = .ok bound) :
    ∃ minutes : Nat, bound = .integer minutes := by
  rw [readDuration] at success
  split at success
  next => cases success
  next hours minutes _ =>
    cases hoursRead : ofDurationRun hours with
    | error fault => rw [hoursRead] at success; cases success
    | ok hourCount =>
      cases minutesRead : ofDurationRun minutes with
      | error fault => rw [hoursRead, minutesRead] at success; cases success
      | ok minuteCount =>
        rw [hoursRead, minutesRead] at success
        cases success
        exact ⟨hourCount * 60 + minuteCount, rfl⟩

theorem ofDurationRun_ne_invalid (digits : List Nat) (fault : QueryFault) :
    ofDurationRun digits ≠ .error (.invalid fault) := by
  intro failure
  rw [ofDurationRun] at failure
  split at failure <;> cases failure

theorem uniform_readDuration : Uniform readDuration := by
  refine ⟨⟨false, ?_⟩, ?_⟩
  · intro text bound success
    obtain ⟨minutes, rfl⟩ := readDuration_eq_ok success
    rfl
  · intro text fault failure
    rw [readDuration] at failure
    split at failure
    next => cases failure
    next hours minutes _ =>
      cases hoursRead : ofDurationRun hours with
      | error e =>
        rw [hoursRead] at failure
        cases failure
        exact ofDurationRun_ne_invalid hours fault hoursRead
      | ok hourCount =>
        cases minutesRead : ofDurationRun minutes with
        | error e =>
          rw [hoursRead, minutesRead] at failure
          cases failure
          exact ofDurationRun_ne_invalid minutes fault minutesRead
        | ok minuteCount =>
          rw [hoursRead, minutesRead] at failure
          cases failure

theorem readDate_eq_ok {text : Text} {bound : Bound} (success : readDate text = .ok bound) :
    ∃ d, bound = .date d := by
  rw [readDate] at success
  split at success
  next => cases success
  next d _ =>
    cases success
    exact ⟨d, rfl⟩

theorem uniform_readDate : Uniform readDate := by
  refine ⟨⟨true, ?_⟩, ?_⟩
  · intro text bound success
    obtain ⟨d, rfl⟩ := readDate_eq_ok success
    rfl
  · intro text fault failure
    rw [readDate] at failure
    split at failure <;> cases failure

theorem uniform_read (form : NumberForm) : Uniform form.read := by
  cases form with
  | number => exact uniform_readNumber
  | duration => exact uniform_readDuration
  | date => exact uniform_readDate

end Bound

/-! ## Ranges -/

namespace Range

theorem make_eq_ok_iff {field : Field} {min max : Option Bound} {range : Range} :
    make field min max = .ok range ↔
      range = ⟨field, min, max⟩ ∧ (min.isSome = true ∨ max.isSome = true) ∧
        ∀ low ∈ min, ∀ high ∈ max, low.exceeds? high = some false := by
  cases min with
  | none => cases max <;> simp [make, eq_comm]
  | some low =>
    cases max with
    | none => simp [make, eq_comm]
    | some high =>
      cases compared : low.exceeds? high with
      | none => simp [make, compared]
      | some exceeds => cases exceeds <;> simp [make, compared, eq_comm]

theorem make_ne_incomparable {field : Field} {min max : Option Bound}
    (comparable : ∀ low ∈ min, ∀ high ∈ max, low.exceeds? high ≠ none) :
    make field min max ≠ .error .incomparableBounds := by
  cases min with
  | none => cases max <;> simp [make]
  | some low =>
    cases max with
    | none => simp [make]
    | some high =>
      cases compared : low.exceeds? high with
      | none => exact absurd compared (comparable low rfl high rfl)
      | some exceeds =>
        cases exceeds with
        | false => simp [make, compared]
        | true =>
          simp only [make, compared, crossed]
          split <;> simp

/-- The bound of one side of a range, if there is one, was read from some text. -/
def WasRead (bound : Text → Except ValueFault Bound) (side : Option Bound) : Prop :=
  ∀ value ∈ side, ∃ part, bound part = .ok value

theorem wasRead_readSide {bound : Text → Except ValueFault Bound} {text : Text} {side : Option Bound}
    (success : readSide bound text = .ok side) : WasRead bound side := by
  intro value isValue
  rw [readSide] at success
  split at success
  next =>
    cases success
    cases isValue
  next =>
    obtain ⟨found, reading, rfl⟩ := Outcome.map_eq_ok success
    cases isValue
    exact ⟨text, reading⟩

theorem exists_of_readSide_eq_error {bound : Text → Except ValueFault Bound} {text : Text}
    {fault : ValueFault} (failure : readSide bound text = .error fault) :
    ∃ part, bound part = .error fault := by
  rw [readSide] at failure
  split at failure
  next => cases failure
  next => exact ⟨text, Outcome.map_eq_error failure⟩

/-- Either something is missing or a bound cannot be read, or the range is made from bounds that were read. -/
theorem read_cases (field : Field) (bound : Text → Except ValueFault Bound) (separator text : Text) :
    (∃ fault, read field bound separator text = .error fault ∧
      (fault = .valueRequired ∨ fault = .boundRequired ∨ ∃ part, bound part = .error fault)) ∨
    ∃ min max, WasRead bound min ∧ WasRead bound max ∧
      read field bound separator text = (make field min max).mapError .invalid := by
  rw [read]
  split
  next => exact .inl ⟨.valueRequired, rfl, .inl rfl⟩
  next =>
    split
    next =>
      cases reading : bound (trim text) with
      | error fault => exact .inl ⟨fault, rfl, .inr (.inr ⟨_, reading⟩)⟩
      | ok exact =>
        have wasRead : WasRead bound (some exact) := by
          intro value isValue
          cases isValue
          exact ⟨_, reading⟩
        exact .inr ⟨some exact, some exact, wasRead, wasRead, rfl⟩
    next index _ =>
      dsimp only
      split
      next => exact .inl ⟨.boundRequired, rfl, .inr (.inl rfl)⟩
      next =>
        cases lowRead : readSide bound (trim ((trim text).take index)) with
        | error fault =>
          exact .inl ⟨fault, rfl, .inr (.inr (exists_of_readSide_eq_error lowRead))⟩
        | ok min =>
          cases highRead : readSide bound (trim ((trim text).drop (index + separator.length))) with
          | error fault =>
            exact .inl ⟨fault, rfl, .inr (.inr (exists_of_readSide_eq_error highRead))⟩
          | ok max =>
            exact .inr ⟨min, max, wasRead_readSide lowRead, wasRead_readSide highRead, rfl⟩

theorem read_eq_ok {field : Field} {bound : Text → Except ValueFault Bound} {separator text : Text}
    {range : Range} (success : read field bound separator text = .ok range) :
    range.field = field ∧ WasRead bound range.min ∧ WasRead bound range.max ∧
      (range.min.isSome = true ∨ range.max.isSome = true) ∧
      ∀ low ∈ range.min, ∀ high ∈ range.max, low.exceeds? high = some false := by
  rcases read_cases field bound separator text with ⟨fault, failure, -⟩ | ⟨min, max, low, high, outcome⟩
  · cases failure.symm.trans success
  · have made := Outcome.mapError_eq_ok (outcome.symm.trans success)
    obtain ⟨rfl, bounded, ordered⟩ := make_eq_ok_iff.1 made
    exact ⟨rfl, low, high, bounded, ordered⟩

/-- Bounds that were read in one way can be compared. -/
theorem read_ne_incomparable {bound : Text → Except ValueFault Bound} (uniform : Bound.Uniform bound)
    (field : Field) (separator text : Text) :
    read field bound separator text ≠ .error (.invalid .incomparableBounds) := by
  intro failure
  rcases read_cases field bound separator text with
    ⟨fault, failed, reasons⟩ | ⟨min, max, lowRead, highRead, outcome⟩
  · cases failed.symm.trans failure
    rcases reasons with missing | missing | ⟨part, unread⟩
    · cases missing
    · cases missing
    · exact uniform.ofText part _ unread
  · obtain ⟨dated, alike⟩ := uniform.alike
    have comparable : ∀ low ∈ min, ∀ high ∈ max, low.exceeds? high ≠ none := by
      intro low isLow high isHigh
      obtain ⟨lowPart, lowReading⟩ := lowRead low isLow
      obtain ⟨highPart, highReading⟩ := highRead high isHigh
      exact Bound.exceeds?_ne_none ((alike _ _ lowReading).trans (alike _ _ highReading).symm)
    have made := outcome.symm.trans failure
    cases making : make field min max with
    | ok range => rw [making] at made; cases made
    | error fault =>
      rw [making] at made
      cases made
      exact make_ne_incomparable comparable making

end Range

/-! ## Texts -/

/-- Every member is kept where it first occurs. -/
theorem distinct_eq_eraseDups {α : Type} [DecidableEq α] (items : List α) :
    distinct items = items.eraseDups := by
  induction items using List.reverseRecOn with
  | nil => rfl
  | append_singleton items item ih =>
    rw [distinct, List.foldl_append, ← distinct, ih, List.eraseDups_append]
    by_cases member : item ∈ items
    · simp [member, List.removeAll]
    · simp [member, List.removeAll, List.eraseDups_cons]

theorem distinct_eq_nil_iff {α : Type} [DecidableEq α] {items : List α} : distinct items = [] ↔ items = [] := by
  rw [distinct_eq_eraseDups]
  cases items with
  | nil => simp
  | cons item items => simp [List.eraseDups_cons]

theorem distinct_of_nodup {α : Type} [DecidableEq α] {items : List α} (nodup : items.Nodup) :
    distinct items = items := by
  induction items using List.reverseRecOn with
  | nil => rfl
  | append_singleton items item ih =>
    obtain ⟨itemsNodup, -, apart⟩ := List.nodup_append.1 nodup
    have absent : item ∉ items := fun member => apart item member item (by simp) rfl
    rw [distinct, List.foldl_append, ← distinct, ih itemsNodup]
    simp [absent]

/-- Against fields that do not repeat, every text that is not blank can be matched. -/
theorem TextMatch.read_eq {fields : List Field} (nonempty : fields ≠ []) (nodup : fields.Nodup)
    (operator : Operator) (text : Text) :
    read fields operator text =
      if allBlank text then .error .textRequired else .ok ⟨fields, text, operator⟩ := by
  have sameFields : (({} : TextDraft).addFields fields).fields = fields := distinct_of_nodup nodup
  rw [read]
  split
  next => rfl
  next solid =>
    simp [TextDraft.build, TextDraft.setOperator, TextDraft.setText, sameFields, nonempty, make, nodup,
      solid, Except.mapError]

theorem ValueKind.read_ne_incomparable (field : Field) (kind : ValueKind) (value : Text) :
    kind.read field value ≠ .error (.invalid .incomparableBounds) := by
  intro failure
  cases kind with
  | text operator =>
    have failed := Outcome.map_eq_error failure
    rw [TextMatch.read_eq (List.cons_ne_nil field []) (by simp)] at failed
    split at failed <;> cases failed
  | number form =>
    exact Range.read_ne_incomparable (Bound.uniform_read form) _ _ _ (Outcome.map_eq_error failure)
  | duration =>
    exact Range.read_ne_incomparable Bound.uniform_readDuration _ _ _ (Outcome.map_eq_error failure)
  | date =>
    exact Range.read_ne_incomparable Bound.uniform_readDate _ _ _ (Outcome.map_eq_error failure)

end SearchQuery
