import SearchQuery.Proofs.Segment.Grammar

/-!
# Splitting search strings

The segments of a search string that is not blank are made from the stretches of a well-formed list of
pieces that spells the trimmed string.  Two search strings with blanks between them split into the segments
of the one and then those of the other.
-/

set_option autoImplicit false

namespace SearchQuery

open SearchQuery.Text

namespace Piece

def isGap : Piece → Bool
  | .gap _ => true
  | _ => false

theorem stretches_ne_nil (pieces : List Piece) : stretches pieces ≠ [] := by
  fun_induction stretches pieces with
  | case1 => simp
  | case2 => simp
  | case3 => simp
  | case4 => simp

theorem stretches_cons {piece : Piece} (solid : piece.isGap = false) {more stretch : List Piece}
    {others : List (List Piece)} (tail : stretches more = stretch :: others) :
    stretches (piece :: more) = (piece :: stretch) :: others := by
  cases piece with
  | gap _ => cases solid
  | quoted _ => simp only [stretches, tail]
  | separator => simp only [stretches, tail]
  | bare _ => simp only [stretches, tail]

theorem stretches_append_gap (before : List Piece) (blanks : Text) (after : List Piece) :
    stretches (before ++ .gap blanks :: after) = stretches before ++ stretches after := by
  induction before with
  | nil => rfl
  | cons piece before ih =>
    cases kind : piece.isGap with
    | true =>
      cases piece with
      | gap _ => rw [List.cons_append, stretches, ih, stretches, List.cons_append]
      | quoted _ => cases kind
      | separator => cases kind
      | bare _ => cases kind
    | false =>
      obtain ⟨stretch, others, equal⟩ := List.exists_cons_of_ne_nil (stretches_ne_nil before)
      rw [equal, List.cons_append] at ih
      rw [List.cons_append, stretches_cons kind ih, stretches_cons kind equal, List.cons_append]

theorem raw_ne_nil {piece : Piece} (wellFormed : piece.WellFormed) : piece.raw ≠ [] := by
  cases piece with
  | quoted _ => simp [raw]
  | separator => simp [raw]
  | bare _ => exact wellFormed.1
  | gap _ => exact wellFormed.1

theorem flatMap_raw_ne_nil {pieces : List Piece} (wellFormed : ∀ piece ∈ pieces, piece.WellFormed)
    (nonempty : pieces ≠ []) : pieces.flatMap raw ≠ [] := by
  obtain ⟨piece, more, rfl⟩ := List.exists_cons_of_ne_nil nonempty
  have rawNonempty := raw_ne_nil (wellFormed piece List.mem_cons_self)
  exact List.append_ne_nil_of_left_ne_nil rawNonempty _

theorem isGap_eq_false {piece : Piece} (wellFormed : piece.WellFormed) {c : Char}
    (member : c ∈ piece.raw) (solid : isBlank c = false) : piece.isGap = false := by
  cases piece with
  | gap blanks => exact absurd (wellFormed.2 c member) (Bool.eq_false_iff.1 solid)
  | quoted _ => rfl
  | separator => rfl
  | bare _ => rfl

theorem apart_gap {piece : Piece} (solid : piece.isGap = false) (blanks : Text) :
    Apart piece (.gap blanks) ∧ Apart (.gap blanks) piece := by
  cases piece with
  | gap _ => cases solid
  | quoted _ => exact ⟨trivial, trivial⟩
  | separator => exact ⟨trivial, trivial⟩
  | bare _ => exact ⟨trivial, trivial⟩

theorem isGap_of_apart_gap {piece : Piece} {blanks : Text} (apart : Apart (.gap blanks) piece) :
    piece.isGap = false := by
  cases piece with
  | gap _ => exact apart.elim
  | quoted _ => rfl
  | separator => rfl
  | bare _ => rfl

/-- Neither the first nor the last piece is a gap. -/
structure Solid (pieces : List Piece) : Prop where
  head : ∀ piece ∈ pieces.head?, piece.isGap = false
  last : ∀ piece ∈ pieces.getLast?, piece.isGap = false

theorem solid_of_trimmed {pieces : List Piece} (lexed : Lexed pieces)
    (trimmed : Trimmed (pieces.flatMap raw)) : Solid pieces := by
  constructor
  · intro piece isHead
    obtain ⟨more, rfl⟩ := List.head?_eq_some_iff.1 isHead
    have wellFormed := lexed.wellFormed piece List.mem_cons_self
    obtain ⟨c, rest, spelled⟩ := List.exists_cons_of_ne_nil (raw_ne_nil wellFormed)
    have solid : isBlank c = false := trimmed.head c (by simp [spelled])
    exact isGap_eq_false wellFormed (by simp [spelled]) solid
  · intro piece isLast
    obtain ⟨more, rfl⟩ := List.getLast?_eq_some_iff.1 isLast
    have wellFormed := lexed.wellFormed piece (by simp)
    have nonempty := raw_ne_nil wellFormed
    have solid : isBlank (piece.raw.getLast nonempty) = false :=
      trimmed.last _ (by simp [List.getLast?_append, List.getLast?_eq_some_getLast nonempty])
    exact isGap_eq_false wellFormed (List.getLast_mem nonempty) solid

theorem lexed_join {before after : List Piece} (lexedBefore : Lexed before) (lexedAfter : Lexed after)
    (solidBefore : Solid before) (solidAfter : Solid after) {blanks : Text} (nonempty : blanks ≠ [])
    (blank : allBlank blanks = true) : Lexed (before ++ .gap blanks :: after) := by
  constructor
  · intro piece member
    rcases List.mem_append.1 member with member | member
    · exact lexedBefore.wellFormed piece member
    · rcases List.mem_cons.1 member with rfl | member
      · exact ⟨nonempty, allBlank_iff.1 blank⟩
      · exact lexedAfter.wellFormed piece member
  · refine List.isChain_append.2 ⟨lexedBefore.apart, List.isChain_cons.2 ⟨?_, lexedAfter.apart⟩, ?_⟩
    · intro piece isHead
      exact (apart_gap (solidAfter.head piece isHead) blanks).2
    · intro piece isLast next isNext
      cases isNext
      exact (apart_gap (solidBefore.last piece isLast) blanks).1

/-! ## The negating dash -/

theorem takeNegation_of_head_ne {run : Text} (noDash : run.head? ≠ some '-') (rest : List Piece) :
    takeNegation (.bare run :: rest) = (false, .bare run :: rest) := by
  cases run with
  | nil => rfl
  | cons c run =>
    have other : c ≠ '-' := fun dash => noDash (congrArg some dash)
    rw [takeNegation.eq_def]
    split
    next equal => simp [other] at equal
    next equal => simp [other] at equal
    next equal => simp [other] at equal
    next => rfl

theorem divide_of_not_mem {pieces : List Piece} (none : .separator ∉ pieces) :
    divide pieces = (.none, contents pieces) := by
  have noStop : pieces.dropWhile (· ≠ .separator) = [] := by
    rw [List.dropWhile_eq_nil_iff]
    rintro piece member
    exact decide_eq_true fun equal => none (equal ▸ member)
  rw [divide, noStop]

theorem divide_append_separator {before : List Piece} (none : .separator ∉ before)
    (after : List Piece) :
    divide (before ++ .separator :: after) =
      (if (contents before).isEmpty then .none else some (contents before), contents after) := by
  have passed : ∀ piece ∈ before, decide (piece ≠ .separator) = true :=
    fun piece member => decide_eq_true fun equal => none (equal ▸ member)
  rw [divide, List.dropWhile_append_of_pos passed, List.takeWhile_append_of_pos passed]
  simp

end Piece

namespace Segment

theorem split_eq_ok_iff {query : Text} (solid : allBlank query = false) {segments : List Segment} :
    split query = .ok segments ↔
      ∃ pieces, Piece.Lexed pieces ∧ pieces.flatMap Piece.raw = trim query ∧
        segments = (Piece.stretches pieces).map ofPieces := by
  have nonempty : ¬(trim query).isEmpty = true :=
    fun empty => trim_ne_nil solid (List.isEmpty_iff.1 empty)
  rw [split, if_neg nonempty]
  constructor
  · intro success
    cases cutEquation : Piece.cut (trim query) with
    | error fault => simp [cutEquation] at success
    | ok pieces =>
      obtain ⟨lexed, spelled⟩ := Piece.cut_eq_ok_iff.1 cutEquation
      rw [cutEquation] at success
      exact ⟨pieces, lexed, spelled, (Except.ok.inj success).symm⟩
  · rintro ⟨pieces, lexed, spelled, rfl⟩
    rw [Piece.cut_eq_ok_iff.2 ⟨lexed, spelled⟩]

/-- A well-formed list of pieces with solid ends is split into its stretches. -/
theorem split_flatMap_raw {pieces : List Piece} (lexed : Piece.Lexed pieces) (nonempty : pieces ≠ [])
    (trimmed : Trimmed (pieces.flatMap Piece.raw)) :
    split (pieces.flatMap Piece.raw) = .ok ((Piece.stretches pieces).map ofPieces) := by
  have solid : allBlank (pieces.flatMap Piece.raw) = false := by
    rw [Bool.eq_false_iff, ne_eq, ← trim_eq_nil_iff, trimmed.trim_eq_self]
    exact Piece.flatMap_raw_ne_nil lexed.wellFormed nonempty
  exact (split_eq_ok_iff solid).2 ⟨pieces, lexed, trimmed.trim_eq_self.symm, rfl⟩

theorem split_ne_nil {query : Text} (solid : allBlank query = false) {segments : List Segment}
    (success : split query = .ok segments) : segments ≠ [] := by
  obtain ⟨pieces, -, -, rfl⟩ := (split_eq_ok_iff solid).1 success
  intro empty
  exact Piece.stretches_ne_nil pieces (List.map_eq_nil_iff.1 empty)

/-- What is typed behind blanks is split on its own. -/
theorem split_append {left right blanks : Text} {first second : List Segment}
    (leftSolid : allBlank left = false) (rightSolid : allBlank right = false)
    (nonempty : blanks ≠ []) (blank : allBlank blanks = true)
    (splitLeft : split left = .ok first) (splitRight : split right = .ok second) :
    split (left ++ blanks ++ right) = .ok (first ++ second) := by
  obtain ⟨before, lexedBefore, spelledBefore, rfl⟩ := (split_eq_ok_iff leftSolid).1 splitLeft
  obtain ⟨after, lexedAfter, spelledAfter, rfl⟩ := (split_eq_ok_iff rightSolid).1 splitRight
  obtain ⟨between, betweenNonempty, betweenBlank, trimEquation⟩ :=
    exists_trim_append leftSolid rightSolid nonempty blank
  have solidBefore := Piece.solid_of_trimmed lexedBefore (spelledBefore ▸ trimmed_trim left)
  have solidAfter := Piece.solid_of_trimmed lexedAfter (spelledAfter ▸ trimmed_trim right)
  have solid : allBlank (left ++ blanks ++ right) = false := by
    rw [allBlank, List.all_append, ← allBlank, ← allBlank, rightSolid, Bool.and_false]
  refine (split_eq_ok_iff solid).2 ⟨before ++ .gap between :: after, ?_, ?_, ?_⟩
  · exact Piece.lexed_join lexedBefore lexedAfter solidBefore solidAfter betweenNonempty betweenBlank
  · rw [trimEquation, List.flatMap_append, List.flatMap_cons, spelledBefore, spelledAfter,
      List.append_assoc]
    rfl
  · rw [Piece.stretches_append_gap, List.map_append]

end Segment

end SearchQuery
