import Mathlib.Data.List.Forall2

/-!
# Outcomes

How an outcome that may be an error is taken apart: what must have gone before a success, and what a
list of steps gives when one of them fails.
-/

set_option autoImplicit false

namespace SearchQuery.Outcome

variable {ε δ α β : Type}

theorem map_eq_ok {f : α → β} {outcome : Except ε α} {result : β}
    (success : outcome.map f = .ok result) : ∃ value, outcome = .ok value ∧ f value = result := by
  cases outcome with
  | error e => cases success
  | ok value => exact ⟨value, rfl, Except.ok.inj success⟩

theorem map_eq_error {f : α → β} {outcome : Except ε α} {e : ε} (failure : outcome.map f = .error e) :
    outcome = .error e := by
  cases outcome with
  | error e => exact congrArg Except.error (Except.error.inj failure)
  | ok value => cases failure

theorem mapError_eq_ok {f : ε → δ} {outcome : Except ε α} {value : α}
    (success : outcome.mapError f = .ok value) : outcome = .ok value := by
  cases outcome with
  | error e => cases success
  | ok value => exact congrArg Except.ok (Except.ok.inj success)

theorem bind_eq_ok {outcome : Except ε α} {next : α → Except ε β} {result : β}
    (success : outcome >>= next = .ok result) : ∃ value, outcome = .ok value ∧ next value = .ok result := by
  cases outcome with
  | error e => cases success
  | ok value => exact ⟨value, rfl, success⟩

/-- A list of steps succeeds exactly when each of them does. -/
theorem mapM_eq_ok_iff {f : α → Except ε β} {items : List α} {results : List β} :
    items.mapM f = .ok results ↔ List.Forall₂ (fun item result => f item = .ok result) items results := by
  induction items generalizing results with
  | nil =>
    rw [List.mapM_nil]
    constructor
    · intro success
      cases success
      exact .nil
    · intro steps
      cases steps
      rfl
  | cons item items ih =>
    rw [List.mapM_cons]
    constructor
    · intro success
      cases step : f item with
      | error e => rw [step] at success; cases success
      | ok result =>
        cases steps : items.mapM f with
        | error e => rw [step, steps] at success; cases success
        | ok more =>
          rw [step, steps] at success
          cases success
          exact .cons step (ih.1 steps)
    · intro steps
      cases steps with
      | cons step steps =>
        rw [step, ih.2 steps]
        rfl

theorem exists_mapM_eq_ok {f : α → Except ε β} {items : List α}
    (each : ∀ item ∈ items, ∃ result, f item = .ok result) : ∃ results, items.mapM f = .ok results := by
  induction items with
  | nil => exact ⟨[], rfl⟩
  | cons item items ih =>
    obtain ⟨⟨result, step⟩, later⟩ := List.forall_mem_cons.1 each
    obtain ⟨results, steps⟩ := ih later
    exact ⟨result :: results, mapM_eq_ok_iff.2 (.cons step (mapM_eq_ok_iff.1 steps))⟩

/-- A list of steps fails as the first of them that fails. -/
theorem mapM_eq_error_iff {f : α → Except ε β} {items : List α} {e : ε} :
    items.mapM f = .error e ↔
      ∃ before item after, items = before ++ item :: after ∧
        (∀ earlier ∈ before, ∃ result, f earlier = .ok result) ∧ f item = .error e := by
  induction items with
  | nil => simp [pure, Except.pure]
  | cons item items ih =>
    rw [List.mapM_cons]
    constructor
    · intro failure
      cases step : f item with
      | error found =>
        rw [step] at failure
        cases failure
        exact ⟨[], item, items, rfl, by simp, step⟩
      | ok result =>
        cases steps : items.mapM f with
        | ok results => rw [step, steps] at failure; cases failure
        | error found =>
          rw [step, steps] at failure
          cases failure
          obtain ⟨before, next, after, rfl, early, late⟩ := ih.1 steps
          exact ⟨item :: before, next, after, rfl, List.forall_mem_cons.2 ⟨⟨result, step⟩, early⟩, late⟩
    · rintro ⟨before, next, after, parted, early, late⟩
      cases before with
      | nil =>
        cases parted
        rw [late]
        rfl
      | cons first before =>
        cases parted
        obtain ⟨⟨result, step⟩, later⟩ := List.forall_mem_cons.1 early
        rw [step, ih.2 ⟨before, next, after, rfl, later, late⟩]
        rfl

theorem mem_of_mapM_eq_ok {f : α → Except ε β} {items : List α} {results : List β}
    (success : items.mapM f = .ok results) {item : α} (member : item ∈ items) :
    ∃ result ∈ results, f item = .ok result := by
  have steps := mapM_eq_ok_iff.1 success
  clear success
  induction steps with
  | nil => cases member
  | cons step _ ih =>
    rcases List.mem_cons.1 member with rfl | member
    · exact ⟨_, List.mem_cons_self, step⟩
    · obtain ⟨result, resultMember, success⟩ := ih member
      exact ⟨result, List.mem_cons_of_mem _ resultMember, success⟩

end SearchQuery.Outcome
