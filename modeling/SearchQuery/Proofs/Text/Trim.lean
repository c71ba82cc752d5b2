import Mathlib.Data.List.DropRight
import SearchQuery.Text.Blank

/-!
# Trimming

Trimming a text finds the one part of it that neither begins nor ends with a blank and has only blanks on
both sides.
-/

set_option autoImplicit false

namespace SearchQuery.Text

/-- Neither the first nor the last character is a blank. -/
structure Trimmed (s : Text) : Prop where
  head : ∀ c ∈ s.head?, isBlank c = false
  last : ∀ c ∈ s.getLast?, isBlank c = false

theorem trimmed_of_noBlank {s : Text} (noBlank : ∀ c ∈ s, isBlank c = false) : Trimmed s :=
  ⟨fun c isHead => noBlank c (List.mem_of_mem_head? isHead), fun c isLast => noBlank c (List.mem_of_getLast? isLast)⟩

theorem allBlank_iff {s : Text} : allBlank s = true ↔ ∀ c ∈ s, isBlank c = true :=
  List.all_eq_true

theorem allBlank_append {s t : Text} :
    allBlank (s ++ t) = true ↔ allBlank s = true ∧ allBlank t = true := by
  rw [allBlank, List.all_append, Bool.and_eq_true, allBlank, allBlank]

theorem trimEnd_eq_rdropWhile (s : Text) : trimEnd s = s.rdropWhile isBlank := rfl

theorem trimStart_append {lead : Text} (blank : allBlank lead = true) (s : Text) :
    trimStart (lead ++ s) = trimStart s :=
  List.dropWhile_append_of_pos (allBlank_iff.1 blank)

theorem trimEnd_append {tail : Text} (blank : allBlank tail = true) (s : Text) :
    trimEnd (s ++ tail) = trimEnd s := by
  have reversed : ∀ c ∈ tail.reverse, isBlank c = true := by
    intro c member
    exact allBlank_iff.1 blank c (List.mem_reverse.1 member)
  rw [trimEnd, List.reverse_append, List.dropWhile_append_of_pos reversed, trimEnd]

theorem trimStart_eq_self {s : Text} (solid : ∀ c ∈ s.head?, isBlank c = false) : trimStart s = s := by
  cases s with
  | nil => rfl
  | cons c rest => exact List.dropWhile_cons_of_neg (Bool.eq_false_iff.1 (solid c rfl))

theorem trimEnd_eq_self {s : Text} (solid : ∀ c ∈ s.getLast?, isBlank c = false) : trimEnd s = s := by
  rw [trimEnd_eq_rdropWhile, List.rdropWhile_eq_self_iff]
  intro nonempty
  exact Bool.eq_false_iff.1 (solid _ (List.getLast_mem_getLast? nonempty))

theorem Trimmed.trim_eq_self {s : Text} (trimmed : Trimmed s) : trim s = s := by
  rw [trim, trimStart_eq_self trimmed.head, trimEnd_eq_self trimmed.last]

theorem trim_surrounded {lead s tail : Text} (leadBlank : allBlank lead = true)
    (tailBlank : allBlank tail = true) (trimmed : Trimmed s) : trim (lead ++ s ++ tail) = s := by
  rw [trim, List.append_assoc, trimStart_append leadBlank]
  cases s with
  | nil =>
    have gone : trimStart tail = [] := List.dropWhile_eq_nil_iff.2 (allBlank_iff.1 tailBlank)
    rw [List.nil_append, gone]
    rfl
  | cons c rest =>
    rw [trimStart_eq_self (s := c :: rest ++ tail) trimmed.head, trimEnd_append tailBlank,
      trimEnd_eq_self trimmed.last]

theorem isBlank_head_dropWhile {s : Text} {c : Char} (isHead : c ∈ (s.dropWhile isBlank).head?) :
    isBlank c = false := by
  have stopped := List.head?_dropWhile_not isBlank s
  rw [Option.mem_def.1 isHead] at stopped
  exact stopped

theorem trimmed_trim (s : Text) : Trimmed (trim s) := by
  constructor
  · intro c isHead
    obtain ⟨rest, equal⟩ := List.rdropWhile_prefix isBlank (l := trimStart s)
    have sameHead : (trimStart s).head? = some c := by
      rw [← equal, List.head?_append, ← trimEnd_eq_rdropWhile, ← trim, Option.mem_def.1 isHead]
      rfl
    exact isBlank_head_dropWhile sameHead
  · intro c isLast
    rw [trim, trimEnd, List.getLast?_reverse] at isLast
    exact isBlank_head_dropWhile isLast

theorem exists_trim (s : Text) :
    ∃ lead tail, allBlank lead = true ∧ allBlank tail = true ∧ s = lead ++ trim s ++ tail := by
  refine ⟨s.takeWhile isBlank, (trimStart s).rtakeWhile isBlank, List.all_takeWhile, ?_, ?_⟩
  · exact allBlank_iff.2 fun c member => List.mem_rtakeWhile_imp member
  · rw [List.append_assoc, trim, trimEnd_eq_rdropWhile, List.rdropWhile_append_rtakeWhile]
    exact List.takeWhile_append_dropWhile.symm

theorem eq_nil_of_allBlank_of_head {s : Text} (blank : allBlank s = true)
    (solid : ∀ c ∈ s.head?, isBlank c = false) : s = [] := by
  cases s with
  | nil => rfl
  | cons c rest =>
    rw [allBlank, List.all_cons, solid c rfl] at blank
    cases blank

theorem eq_nil_of_allBlank_of_last {s : Text} (blank : allBlank s = true)
    (solid : ∀ c ∈ s.getLast?, isBlank c = false) : s = [] := by
  rcases List.eq_nil_or_concat s with rfl | ⟨front, c, rfl⟩
  · rfl
  · have blankLast := allBlank_iff.1 blank c (by simp)
    rw [solid c (by simp)] at blankLast
    cases blankLast

/-- A text that does not begin with a blank loses only its end. -/
theorem exists_trim_append_blanks {s : Text} (solid : ∀ c ∈ s.head?, isBlank c = false) :
    ∃ tail, allBlank tail = true ∧ s = trim s ++ tail := by
  obtain ⟨lead, tail, leadBlank, tailBlank, spelled⟩ := exists_trim s
  have noLead : lead = [] := by
    refine eq_nil_of_allBlank_of_head leadBlank fun c isHead => solid c ?_
    rw [spelled, List.append_assoc, List.head?_append, Option.mem_def.1 isHead]
    rfl
  rw [noLead] at spelled
  exact ⟨tail, tailBlank, spelled⟩

/-- A text that does not end with a blank loses only its beginning. -/
theorem exists_blanks_append_trim {s : Text} (solid : ∀ c ∈ s.getLast?, isBlank c = false) :
    ∃ lead, allBlank lead = true ∧ s = lead ++ trim s := by
  obtain ⟨lead, tail, leadBlank, tailBlank, spelled⟩ := exists_trim s
  have noTail : tail = [] := by
    refine eq_nil_of_allBlank_of_last tailBlank fun c isLast => solid c ?_
    rw [spelled, List.getLast?_append, Option.mem_def.1 isLast]
    rfl
  rw [noTail, List.append_nil] at spelled
  exact ⟨lead, leadBlank, spelled⟩

theorem trim_eq_nil_iff {s : Text} : trim s = [] ↔ allBlank s = true := by
  constructor
  · intro empty
    obtain ⟨lead, tail, leadBlank, tailBlank, spelled⟩ := exists_trim s
    rw [spelled, empty, List.append_nil]
    exact allBlank_append.2 ⟨leadBlank, tailBlank⟩
  · intro blank
    have trimmed : Trimmed [] := ⟨by simp, by simp⟩
    have surrounded := @trim_surrounded s [] [] blank rfl trimmed
    rwa [List.append_nil, List.append_nil] at surrounded

theorem trim_ne_nil {s : Text} (solid : allBlank s = false) : trim s ≠ [] := by
  intro empty
  rw [trim_eq_nil_iff, solid] at empty
  cases empty

theorem Trimmed.append {s t : Text} (first : Trimmed s) (second : Trimmed t) (between : Text)
    (nonempty : s ≠ []) (nonemptyLast : t ≠ []) : Trimmed (s ++ between ++ t) := by
  obtain ⟨c, rest, rfl⟩ := List.exists_cons_of_ne_nil nonempty
  constructor
  · exact first.head
  · intro d isLast
    rw [List.getLast?_append_of_ne_nil _ nonemptyLast] at isLast
    exact second.last d isLast

/-- Between two texts the blanks of their ends join those that stand between them. -/
theorem exists_trim_append {left right blanks : Text} (leftSolid : allBlank left = false)
    (rightSolid : allBlank right = false) (nonempty : blanks ≠ []) (blank : allBlank blanks = true) :
    ∃ between, between ≠ [] ∧ allBlank between = true ∧
      trim (left ++ blanks ++ right) = trim left ++ between ++ trim right := by
  obtain ⟨leftLead, leftTail, leftLeadBlank, leftTailBlank, leftParts⟩ := exists_trim left
  obtain ⟨rightLead, rightTail, rightLeadBlank, rightTailBlank, rightParts⟩ := exists_trim right
  refine ⟨leftTail ++ blanks ++ rightLead, by simp [nonempty], ?_, ?_⟩
  · exact allBlank_append.2 ⟨allBlank_append.2 ⟨leftTailBlank, blank⟩, rightLeadBlank⟩
  · have trimmed := (trimmed_trim left).append (trimmed_trim right) (leftTail ++ blanks ++ rightLead)
      (trim_ne_nil leftSolid) (trim_ne_nil rightSolid)
    have surrounded := trim_surrounded leftLeadBlank rightTailBlank trimmed
    rw [← surrounded]
    congr 1
    conv_lhs => rw [leftParts, rightParts]
    simp only [List.append_assoc]

end SearchQuery.Text
