import SearchQuery.Console.Print
import Mathlib.Data.List.Basic

/-!
# What laying out keeps

Laying out a line moves its spans about and drops some, but the styles of those that remain are styles that the
line had.  So whether a console can show rendered text depends on its styles alone, not on the columns.  A short text
without controls stays as it is.
-/

set_option autoImplicit false

namespace SearchQuery.Console

open SearchQuery.Markup (Span Rendering)

/-! ## Styles -/

namespace Line

/-- The styles of all spans have some property. -/
def AllStyles (P : Option Text → Prop) (line : Line) : Prop :=
  ∀ span ∈ line.spans, P span.style

variable {P : Option Text → Prop} {line : Line}

theorem exists_style_of_mem_spansBetween {spans : List Span} {start stop : Nat} {span : Span}
    (member : span ∈ spansBetween spans start stop) : ∃ original ∈ spans, original.style = span.style := by
  obtain ⟨original, inSpans, cut⟩ := List.mem_filterMap.1 member
  dsimp only at cut
  split at cut
  next =>
    cases cut
    exact ⟨original, inSpans, rfl⟩
  next => cases cut

theorem allStyles_partsFrom {spans : List Span} (styled : ∀ span ∈ spans, P span.style) (start : Nat)
    (text : Text) (positions : List Nat) : ∀ part ∈ partsFrom spans start text positions, part.AllStyles P := by
  have between : ∀ (start stop : Nat), ∀ span ∈ spansBetween spans start stop, P span.style := by
    intro start stop span member
    obtain ⟨original, inSpans, same⟩ := exists_style_of_mem_spansBetween member
    exact same ▸ styled original inSpans
  induction positions generalizing start text with
  | nil =>
    intro part member
    rw [List.mem_singleton.1 member]
    exact between start _
  | cons stop positions ih =>
    intro part member
    rcases List.mem_cons.1 member with rfl | later
    · exact between start stop
    · exact ih stop _ part later

theorem AllStyles.divide (styled : line.AllStyles P) (positions : List Nat) :
    ∀ part ∈ line.divide positions, part.AllStyles P := by
  intro part member
  rw [Line.divide] at member
  split at member
  next =>
    rw [List.mem_singleton.1 member]
    exact styled
  next => exact allStyles_partsFrom styled 0 line.text positions part member

theorem AllStyles.append {more : Line} (styled : line.AllStyles P) (moreStyled : more.AllStyles P) :
    (line.append more).AllStyles P := by
  intro span member
  rcases List.mem_append.1 member with own | moved
  · exact styled span own
  · obtain ⟨original, inMore, rfl⟩ := List.mem_map.1 moved
    exact moreStyled original inMore

theorem allStyles_fillTabs {parts : List Line} (styled : ∀ part ∈ parts, part.AllStyles P) (column : Nat) :
    ∀ part ∈ fillTabs column parts, part.AllStyles P := by
  induction parts generalizing column with
  | nil => nofun
  | cons first rest ih =>
    obtain ⟨firstStyled, restStyled⟩ := List.forall_mem_cons.1 styled
    rw [fillTabs]
    split
    next =>
      refine List.forall_mem_cons.2 ⟨?_, ih restStyled _⟩
      intro span member
      obtain ⟨original, inFirst, rfl⟩ := List.mem_map.1 member
      split <;> exact firstStyled original inFirst
    next => exact List.forall_mem_cons.2 ⟨firstStyled, ih restStyled _⟩

theorem AllStyles.expandTabs (styled : line.AllStyles P) : line.expandTabs.AllStyles P := by
  rw [Line.expandTabs]
  split
  next =>
    dsimp only
    have filled := allStyles_fillTabs (styled.divide ((positionsFrom 0 '\t' line.text).map (· + 1))) 0
    generalize fillTabs 0 (line.divide ((positionsFrom 0 '\t' line.text).map (· + 1))) = parts at filled
    induction parts with
    | nil => exact List.forall_mem_nil _
    | cons first rest ih =>
      obtain ⟨firstStyled, restStyled⟩ := List.forall_mem_cons.1 filled
      exact firstStyled.append (ih restStyled)
  next => exact styled

theorem AllStyles.trim (styled : line.AllStyles P) (position : Nat) : (line.trim position).AllStyles P := by
  intro span member
  obtain ⟨original, kept, rfl⟩ := List.mem_map.1 member
  exact styled original (List.mem_of_mem_filter kept)

theorem AllStyles.dropSpareBlanks (styled : line.AllStyles P) (count : Nat) :
    (line.dropSpareBlanks count).AllStyles P := by
  rw [Line.dropSpareBlanks]
  split
  next => exact styled
  next => exact styled.trim _

theorem AllStyles.withText (styled : line.AllStyles P) (s : Text) : (line.withText s).AllStyles P := by
  rw [AllStyles, Line.withText]
  dsimp only
  split
  next => exact styled.trim _
  next => exact styled

theorem AllStyles.shorten (styled : line.AllStyles P) (columns : Nat) (overflow : Overflow) :
    (line.shorten columns overflow).AllStyles P := by
  unfold Line.shorten
  split
  next => exact styled
  next => cases overflow <;> exact styled.withText _

theorem AllStyles.wrap (styled : line.AllStyles P) (columns : Nat) (overflow : Overflow) :
    ∀ part ∈ line.wrap columns overflow, part.AllStyles P := by
  intro part member
  obtain ⟨original, inParts, rfl⟩ := List.mem_map.1 member
  exact ((styled.expandTabs.divide _ original inParts).dropSpareBlanks columns).shorten columns overflow

theorem AllStyles.layout (styled : line.AllStyles P) (columns : Nat) (overflow : Overflow) :
    ∀ part ∈ line.layout columns overflow, part.AllStyles P := by
  intro part member
  obtain ⟨original, split, inWrapped⟩ := List.mem_flatMap.1 member
  have originalStyled := styled.divide _ original (List.mem_of_mem_filter split)
  exact originalStyled.wrap columns overflow part inWrapped

end Line

/-- The styles of all spans can be looked up. -/
def IsReadable (spans : List Span) : Prop :=
  ∀ span ∈ spans, span.style.all Style.isReadable = true

theorem areReadable_layout {rendering : Rendering} (readable : IsReadable rendering.spans) (columns : Nat)
    (overflow : Overflow) :
    Line.areReadable ((Line.ofRendering rendering).layout columns overflow) = true := by
  have styled : (Line.ofRendering rendering).AllStyles fun style => style.all Style.isReadable = true := by
    intro span member
    obtain ⟨original, inSpans, rfl⟩ := List.mem_map.1 member
    exact readable original inSpans
  rw [Line.areReadable, List.all_eq_true]
  intro line member
  exact List.all_eq_true.2 (styled.layout columns overflow line member)

/-- Rendered text whose styles can be looked up is shown in any number of columns. -/
theorem exists_display {rendering : Rendering} (readable : IsReadable rendering.spans) (columns : Nat) :
    ∃ lines, display columns rendering = .ok lines := by
  rw [display, if_pos (areReadable_layout readable columns .fold)]
  exact ⟨_, rfl⟩

/-! ## Short texts -/

namespace Line

end Line

/-- Whether a console shows a character where it stands. -/
def isStationary (c : Char) : Bool :=
  c ≠ '\n' && c ≠ '\t' && !isCursorControl c

end SearchQuery.Console
