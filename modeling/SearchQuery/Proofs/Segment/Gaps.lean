import Mathlib.Data.List.SplitBy
import SearchQuery.Proofs.Segment.Scan

/-!
# Gaps between segments

The blanks at which a search string falls into segments are the maximal runs of blanks that a scan from
left to right meets outside quotes and escapes.  Together with the scan of each segment's raw text this
says what splitting does without a word about pieces.
-/

set_option autoImplicit false

namespace SearchQuery

open SearchQuery.Text

/-- The characters of a text, each with whether it is a blank at an open place. -/
def Cursor.marks : Cursor → Text → List (Char × Bool)
  | _, [] => []
  | cursor, c :: rest => (c, cursor.isOpen && isBlank c) :: marks (cursor.next c) rest

namespace Piece

/-! ## Stretches and the gaps between them -/

/-- Gaps, each with the stretch behind it. -/
def spaced (others : List (Text × List Piece)) : List Piece :=
  others.flatMap fun other => .gap other.1 :: other.2

theorem ne_nil_of_append_spaced {pieces first : List Piece} {others : List (Text × List Piece)}
    (parted : pieces = first ++ spaced others) (nonempty : pieces ≠ [])
    (head : ∀ piece ∈ pieces.head?, piece.isGap = false) : first ≠ [] := by
  rintro rfl
  cases others with
  | nil => exact nonempty parted
  | cons other others =>
    have gap := head (.gap other.1) (by rw [parted]; rfl)
    cases gap

/-- The pieces are the first stretch and then, for every other one, a gap and the stretch behind it. -/
theorem exists_stretches {pieces : List Piece} (lexed : Lexed pieces)
    (last : ∀ piece ∈ pieces.getLast?, piece.isGap = false) :
    ∃ first others, stretches pieces = first :: others.map Prod.snd ∧
      pieces = first ++ spaced others ∧ (∀ piece ∈ first, piece.isGap = false) ∧
      ∀ other ∈ others, other.2 ≠ [] ∧ ∀ piece ∈ other.2, piece.isGap = false := by
  induction pieces with
  | nil => exact ⟨[], [], rfl, rfl, by simp, by simp⟩
  | cons piece more ih =>
    obtain ⟨-, -, later⟩ := lexed_cons_iff.1 lexed
    obtain ⟨first, others, stretched, parted, firstSolid, othersSolid⟩ :=
      ih later fun next isLast => last next (List.mem_getLast?_cons isLast)
    cases kind : piece.isGap with
    | false =>
      refine ⟨piece :: first, others, stretches_cons kind stretched, ?_,
        List.forall_mem_cons.2 ⟨kind, firstSolid⟩, othersSolid⟩
      rw [parted, List.cons_append]
    | true =>
      cases piece with
      | quoted _ => cases kind
      | separator => cases kind
      | bare _ => cases kind
      | gap blanks =>
        -- A gap is neither the last piece nor beside another gap, so a stretch follows it.
        have moreNonempty : more ≠ [] := by
          rintro rfl
          cases last (.gap blanks) rfl
        have moreHead : ∀ next ∈ more.head?, next.isGap = false := fun next isHead =>
          isGap_of_apart_gap ((List.isChain_cons.1 lexed.apart).1 next isHead)
        have firstNonempty := ne_nil_of_append_spaced parted moreNonempty moreHead
        refine ⟨[], (blanks, first) :: others, ?_, ?_, by simp,
          List.forall_mem_cons.2 ⟨⟨firstNonempty, firstSolid⟩, othersSolid⟩⟩
        · rw [stretches, stretched, List.map_cons]
        · rw [parted]
          rfl

/-- The pieces that make one segment. -/
structure Stretch (pieces : List Piece) : Prop where
  nonempty : pieces ≠ []
  wellFormed : ∀ piece ∈ pieces, piece.WellFormed
  solid : ∀ piece ∈ pieces, piece.isGap = false

theorem Stretch.flatMap_raw_ne_nil {pieces : List Piece} (stretch : Stretch pieces) :
    pieces.flatMap raw ≠ [] :=
  Piece.flatMap_raw_ne_nil stretch.wellFormed stretch.nonempty

theorem exists_stretches_of_solid {pieces : List Piece} (lexed : Lexed pieces) (solid : Solid pieces)
    (nonempty : pieces ≠ []) :
    ∃ first others, stretches pieces = first :: others.map Prod.snd ∧
      pieces = first ++ spaced others ∧ Stretch first ∧
      ∀ other ∈ others, (Piece.gap other.1).WellFormed ∧ Stretch other.2 := by
  obtain ⟨first, others, stretched, parted, firstSolid, othersSolid⟩ :=
    exists_stretches lexed solid.last
  have formed := lexed.wellFormed
  rw [parted, List.forall_mem_append] at formed
  have firstNonempty := ne_nil_of_append_spaced parted nonempty solid.head
  refine ⟨first, others, stretched, parted, ⟨firstNonempty, formed.1, firstSolid⟩, ?_⟩
  intro other member
  have otherFormed : ∀ piece ∈ Piece.gap other.1 :: other.2, piece.WellFormed :=
    fun piece isIn => formed.2 piece (List.mem_flatMap.2 ⟨other, member, isIn⟩)
  obtain ⟨gapFormed, stretchFormed⟩ := List.forall_mem_cons.1 otherFormed
  obtain ⟨otherNonempty, otherSolid⟩ := othersSolid other member
  exact ⟨gapFormed, otherNonempty, stretchFormed, otherSolid⟩

/-! ## Marks of stretches and gaps -/

theorem marks_run {stops : Char → Bool} {s : Text} (run : Run stops s) (quote : stops '"' = true)
    (quoted : Bool) (guarded : ∀ c, stops c = false → quoted = true ∨ isBlank c = false) (rest : Text) :
    Cursor.marks ⟨quoted, false⟩ (s ++ rest) =
      s.map (·, false) ++ Cursor.marks ⟨quoted, false⟩ rest := by
  induction run with
  | nil => rfl
  | @escape c more _ ih =>
    rw [List.cons_append, List.cons_append, Cursor.marks, Cursor.marks, Cursor.next_backslash,
      Cursor.next_escaped, ih]
    simp [Cursor.isOpen, show isBlank '\\' = false by decide]
  | @plain c more ordinary goesOn _ ih =>
    have noQuote : c ≠ '"' := (ne_of_differ quote goesOn).symm
    have unmarked : ((Cursor.mk quoted false).isOpen && isBlank c) = false := by
      rcases guarded c goesOn with rfl | solid
      · rfl
      · rw [solid, Bool.and_false]
    rw [List.cons_append, Cursor.marks, Cursor.next_plain ordinary noQuote, unmarked, ih]
    rfl

theorem marks_blanks {blanks : Text} (blank : ∀ c ∈ blanks, isBlank c = true) (rest : Text) :
    Cursor.marks .start (blanks ++ rest) = blanks.map (·, true) ++ Cursor.marks .start rest := by
  induction blanks with
  | nil => rfl
  | cons c blanks ih =>
    obtain ⟨first, later⟩ := List.forall_mem_cons.1 blank
    have ordinary : c ≠ '\\' := ne_of_differ first (by decide)
    have noQuote : c ≠ '"' := ne_of_differ first (by decide)
    have stays : Cursor.start.next c = .start := Cursor.next_plain ordinary noQuote false
    rw [List.cons_append, Cursor.marks, stays, first, ih later]
    rfl

/-- The scan is at its start again behind every piece, and has marked the piece if it is a gap. -/
theorem marks_raw_append {piece : Piece} (wellFormed : piece.WellFormed) (rest : Text) :
    Cursor.marks .start (piece.raw ++ rest) =
      piece.raw.map (·, piece.isGap) ++ Cursor.marks .start rest := by
  cases piece with
  | quoted body =>
    have inside := marks_run wellFormed rfl true (fun _ _ => .inl rfl) ('"' :: rest)
    rw [raw, List.cons_append, List.cons_append, Cursor.marks, Cursor.start, Cursor.next_quote,
      List.append_assoc, List.singleton_append, Bool.not_false, inside, Cursor.marks,
      Cursor.next_quote]
    simp [isGap, Cursor.isOpen, show isBlank '"' = false by decide]
  | separator => rfl
  | bare run =>
    have guarded : ∀ c, endsBare c = false → false = true ∨ isBlank c = false :=
      fun _ goesOn => .inr (isBlank_of_endsBare_eq_false goesOn)
    exact marks_run wellFormed.2 rfl false guarded rest
  | gap blanks => exact marks_blanks wellFormed.2 rest

theorem marks_flatMap_raw {pieces : List Piece} (wellFormed : ∀ piece ∈ pieces, piece.WellFormed) :
    Cursor.marks .start (pieces.flatMap raw) =
      pieces.flatMap fun piece => piece.raw.map (·, piece.isGap) := by
  induction pieces with
  | nil => rfl
  | cons piece more ih =>
    obtain ⟨first, later⟩ := List.forall_mem_cons.1 wellFormed
    rw [List.flatMap_cons, marks_raw_append first, ih later, List.flatMap_cons]

theorem flatMap_marks_of_solid {pieces : List Piece}
    (solid : ∀ piece ∈ pieces, piece.isGap = false) :
    (pieces.flatMap fun piece => piece.raw.map (·, piece.isGap)) =
      (pieces.flatMap raw).map (·, false) := by
  induction pieces with
  | nil => rfl
  | cons piece more ih =>
    obtain ⟨first, later⟩ := List.forall_mem_cons.1 solid
    rw [List.flatMap_cons, List.flatMap_cons, List.map_append, first, ih later]

theorem marks_append_spaced {first : List Piece} {others : List (Text × List Piece)}
    (stretch : Stretch first)
    (spacing : ∀ other ∈ others, (Piece.gap other.1).WellFormed ∧ Stretch other.2) :
    Cursor.marks .start ((first ++ spaced others).flatMap raw) =
      (first.flatMap raw).map (·, false) ++
        others.flatMap fun other => other.1.map (·, true) ++ (other.2.flatMap raw).map (·, false) := by
  have formed : ∀ piece ∈ first ++ spaced others, piece.WellFormed := by
    refine List.forall_mem_append.2 ⟨stretch.wellFormed, ?_⟩
    intro piece member
    obtain ⟨other, isOther, isIn⟩ := List.mem_flatMap.1 member
    obtain ⟨gapFormed, otherStretch⟩ := spacing other isOther
    exact List.forall_mem_cons.2 ⟨gapFormed, otherStretch.wellFormed⟩ piece isIn
  rw [marks_flatMap_raw formed, List.flatMap_append, flatMap_marks_of_solid stretch.solid, spaced,
    List.flatMap_assoc]
  refine congrArg (_ ++ ·) (List.flatMap_congr ?_)
  intro other member
  rw [List.flatMap_cons, flatMap_marks_of_solid (spacing other member).2.solid]
  rfl

end Piece

/-! ## Maximal runs of equal marks -/

theorem splitBy_mark_append {s : Text} (nonempty : s ≠ []) {mark : Bool} {rest : List (Char × Bool)}
    (changes : ∀ c ∈ rest.head?, c.2 = !mark) :
    (s.map (·, mark) ++ rest).splitBy (·.2 == ·.2) =
      s.map (·, mark) :: rest.splitBy (·.2 == ·.2) := by
  have alike : (s.map (·, mark)).Pairwise fun a b => (a.2 == b.2) = true := by
    rw [List.pairwise_map]
    exact List.pairwise_of_forall fun _ _ => beq_self_eq_true mark
  have breaks : ∀ a ∈ (s.map (·, mark)).getLast?, ∀ b ∈ rest.head?, (a.2 == b.2) = false := by
    intro a isLast b isHead
    obtain ⟨c, -, rfl⟩ := List.mem_map.1 (List.mem_of_mem_getLast? isLast)
    rw [changes b isHead]
    cases mark <;> rfl
  have nonemptyMap : s.map (·, mark) ≠ [] := by simpa using nonempty
  rw [List.splitBy_append breaks, List.splitBy_of_isChain nonemptyMap alike.isChain,
    List.singleton_append]

theorem head?_marked {s : Text} (nonempty : s ≠ []) {mark : Bool} {rest : List (Char × Bool)}
    {c : Char × Bool} (isHead : c ∈ (s.map (·, mark) ++ rest).head?) : c.2 = mark := by
  obtain ⟨d, s, rfl⟩ := List.exists_cons_of_ne_nil nonempty
  cases isHead
  rfl

/-- Unmarked stretches with marked ones between them are the maximal runs of equal marks. -/
theorem splitBy_alternating {α : Type} (spell : α → Text) {first : α} {others : List (Text × α)}
    (firstNonempty : spell first ≠ [])
    (nonempty : ∀ other ∈ others, other.1 ≠ [] ∧ spell other.2 ≠ []) :
    ((spell first).map (·, false) ++
        others.flatMap fun other =>
          other.1.map (·, true) ++ (spell other.2).map (·, false)).splitBy (·.2 == ·.2) =
      (spell first).map (·, false) ::
        others.flatMap fun other => [other.1.map (·, true), (spell other.2).map (·, false)] := by
  induction others generalizing first with
  | nil =>
    rw [List.flatMap_nil, List.flatMap_nil, splitBy_mark_append firstNonempty (by simp)]
    rfl
  | cons other others ih =>
    obtain ⟨⟨blanksNonempty, otherNonempty⟩, later⟩ := List.forall_mem_cons.1 nonempty
    rw [List.flatMap_cons, List.flatMap_cons, List.append_assoc, splitBy_mark_append firstNonempty,
      splitBy_mark_append blanksNonempty, ih otherNonempty later]
    · rfl
    · exact fun c => head?_marked otherNonempty
    · exact fun c => head?_marked blanksNonempty

namespace Segment

/-- Splitting without pieces: the segments stand between the maximal runs of blanks that a scan meets
outside quotes and escapes, and each of them is what a scan over its raw text collects. -/
theorem split_eq_scan {query : Text} (nonempty : trim query ≠ []) {segments : List Segment}
    (success : split query = .ok segments) :
    ∃ (first : Segment) (others : List (Text × Segment)), segments = first :: others.map Prod.snd ∧
      (∀ other ∈ others, other.1 ≠ [] ∧ allBlank other.1 = true) ∧
      trim query = first.rawText ++ others.flatMap (fun other => other.1 ++ other.2.rawText) ∧
      (Cursor.marks .start (trim query)).splitBy (·.2 == ·.2) =
        first.rawText.map (·, false) ::
          others.flatMap (fun other => [other.1.map (·, true), other.2.rawText.map (·, false)]) ∧
      ∀ segment ∈ segments, segment = scan segment.rawText := by
  have solidQuery : allBlank query = false := Bool.eq_false_iff.2 (trim_eq_nil_iff.not.1 nonempty)
  obtain ⟨pieces, lexed, spelled, rfl⟩ := (split_eq_ok_iff solidQuery).1 success
  have solid := Piece.solid_of_trimmed lexed (spelled ▸ trimmed_trim query)
  have piecesNonempty : pieces ≠ [] := by
    rintro rfl
    exact nonempty spelled.symm
  obtain ⟨first, others, stretched, rfl, firstStretch, spacing⟩ :=
    Piece.exists_stretches_of_solid lexed solid piecesNonempty
  refine ⟨ofPieces first, others.map fun other => (other.1, ofPieces other.2), ?_, ?_, ?_, ?_, ?_⟩
  · rw [stretched, List.map_cons, List.map_map, List.map_map]
    rfl
  · intro other member
    obtain ⟨source, isIn, rfl⟩ := List.mem_map.1 member
    obtain ⟨⟨gapNonempty, blank⟩, -⟩ := spacing source isIn
    exact ⟨gapNonempty, allBlank_iff.2 blank⟩
  · rw [← spelled, List.flatMap_append, Piece.spaced, List.flatMap_assoc, List.flatMap_map]
    rfl
  · have maximal := splitBy_alternating (List.flatMap Piece.raw) firstStretch.flatMap_raw_ne_nil
      fun other member => ⟨(spacing other member).1.1, (spacing other member).2.flatMap_raw_ne_nil⟩
    rw [← spelled, Piece.marks_append_spaced firstStretch spacing, maximal, List.flatMap_map]
    rfl
  · intro segment member
    rw [stretched] at member
    obtain ⟨stretch, isIn, rfl⟩ := List.mem_map.1 member
    have isStretch : Piece.Stretch stretch := by
      rcases List.mem_cons.1 isIn with rfl | isIn
      · exact firstStretch
      · obtain ⟨other, isOther, rfl⟩ := List.mem_map.1 isIn
        exact (spacing other isOther).2
    exact ofPieces_eq_scan isStretch.wellFormed isStretch.solid

theorem split_eq_scan_quoted_and_escaped :
    let segments : List Segment :=
      [⟨"-a\\ \"b c\":x:y".toList, some "a b c".toList, "x:y".toList, true⟩,
        ⟨"\"\":z".toList, none, "z".toList, false⟩, ⟨"\\-".toList, none, "-".toList, false⟩]
    split " -a\\ \"b c\":x:y \t\"\":z \\- ".toList = .ok segments ∧
      ∀ segment ∈ segments, segment = scan segment.rawText := by
  intro segments
  have success : split " -a\\ \"b c\":x:y \t\"\":z \\- ".toList = .ok segments := by decide +kernel
  obtain ⟨first, others, -, -, -, -, scanned⟩ := split_eq_scan (by decide +kernel) success
  exact ⟨success, scanned⟩

end Segment

end SearchQuery
