import SearchQuery.Proofs.Segment.Gaps

/-!
# The place of a segment

A search string is the raw texts of its segments in their order, with blanks before, between and behind them,
and every segment has exactly one place in it.  The pieces at that place can be replaced by others that make
one segment, and splitting finds the other segments as they were.
-/

set_option autoImplicit false

namespace SearchQuery

open SearchQuery.Text

namespace Text

/-- The text begins with a character that is no blank. -/
def StartsSolid (s : Text) : Prop :=
  ∃ c ∈ s.head?, isBlank c = false

theorem StartsSolid.append {s : Text} (solid : StartsSolid s) (t : Text) : StartsSolid (s ++ t) := by
  obtain ⟨c, isHead, isSolid⟩ := solid
  obtain ⟨rest, rfl⟩ := List.head?_eq_some_iff.1 isHead
  exact ⟨c, rfl, isSolid⟩

theorem StartsSolid.takeWhile_append {s lead : Text} (solid : StartsSolid s)
    (blank : allBlank lead = true) : (lead ++ s).takeWhile isBlank = lead := by
  obtain ⟨c, isHead, isSolid⟩ := solid
  obtain ⟨rest, rfl⟩ := List.head?_eq_some_iff.1 isHead
  rw [List.takeWhile_append_of_pos (allBlank_iff.1 blank),
    List.takeWhile_cons_of_neg (Bool.eq_false_iff.1 isSolid), List.append_nil]

/-- Blanks end where a text begins that is no blank. -/
theorem StartsSolid.lead_unique {s t lead other : Text} (first : StartsSolid s) (second : StartsSolid t)
    (leadBlank : allBlank lead = true) (otherBlank : allBlank other = true)
    (same : lead ++ s = other ++ t) : lead = other := by
  rw [← first.takeWhile_append leadBlank, same, second.takeWhile_append otherBlank]

/-- A text without blanks at its ends stays so when a character that is no blank goes before a part of it. -/
theorem Trimmed.insert {s t : Text} (trimmed : Trimmed (s ++ t)) (nonempty : t ≠ []) {c : Char}
    (solid : isBlank c = false) : Trimmed (s ++ c :: t) := by
  constructor
  · intro d isHead
    cases s with
    | nil =>
      cases isHead
      exact solid
    | cons first rest => exact trimmed.head d isHead
  · intro d isLast
    apply trimmed.last d
    rw [List.getLast?_append_of_ne_nil _ nonempty]
    rwa [List.getLast?_append_of_ne_nil _ (List.cons_ne_nil c t), List.getLast?_cons_of_ne_nil nonempty]
      at isLast

end Text

namespace Piece

/-! ## One stretch among the others -/

/-- The pieces in front of a stretch: none, or those of the earlier stretches and a gap. -/
def Precedes (earlier : List (List Piece)) (front : List Piece) : Prop :=
  front = [] ∧ earlier = [] ∨
    ∃ pieces blanks, front = pieces ++ [.gap blanks] ∧ stretches pieces = earlier

/-- The pieces behind a stretch: none, or a gap and those of the later stretches. -/
def Follows (later : List (List Piece)) (back : List Piece) : Prop :=
  back = [] ∧ later = [] ∨
    ∃ blanks pieces, back = .gap blanks :: pieces ∧ stretches pieces = later

variable {front stretch back : List Piece} {earlier later : List (List Piece)}

theorem exists_around {pieces : List Piece}
    (parted : stretches pieces = earlier ++ stretch :: later) :
    ∃ front back, pieces = front ++ stretch ++ back ∧ Precedes earlier front ∧ Follows later back := by
  induction pieces generalizing earlier stretch with
  | nil =>
    cases earlier with
    | nil =>
      cases parted
      exact ⟨[], [], rfl, .inl ⟨rfl, rfl⟩, .inl ⟨rfl, rfl⟩⟩
    | cons first others => simp [stretches] at parted
  | cons piece more ih =>
    cases kind : piece.isGap with
    | true =>
      cases piece with
      | quoted _ => cases kind
      | separator => cases kind
      | bare _ => cases kind
      | gap blanks =>
        cases earlier with
        | nil =>
          cases parted
          exact ⟨[], .gap blanks :: more, rfl, .inl ⟨rfl, rfl⟩, .inr ⟨blanks, more, rfl, rfl⟩⟩
        | cons first others =>
          obtain ⟨rfl, rest⟩ := List.cons.inj parted
          obtain ⟨front, back, rfl, precedes, follows⟩ := ih rest
          refine ⟨.gap blanks :: front, back, rfl, .inr ?_, follows⟩
          rcases precedes with ⟨rfl, rfl⟩ | ⟨pieces, lastBlanks, rfl, rfl⟩
          · exact ⟨[], blanks, rfl, rfl⟩
          · exact ⟨.gap blanks :: pieces, lastBlanks, rfl, rfl⟩
    | false =>
      obtain ⟨first, others, tail⟩ := List.exists_cons_of_ne_nil (stretches_ne_nil more)
      rw [stretches_cons kind tail] at parted
      cases earlier with
      | nil =>
        cases parted
        obtain ⟨front, back, spelled, precedes, follows⟩ := @ih first [] tail
        rcases precedes with ⟨rfl, -⟩ | ⟨pieces, blanks, -, empty⟩
        · exact ⟨[], back, congrArg (piece :: ·) spelled, .inl ⟨rfl, rfl⟩, follows⟩
        · exact absurd empty (stretches_ne_nil pieces)
      | cons head rest =>
        obtain ⟨rfl, rfl⟩ := List.cons.inj parted
        obtain ⟨front, back, spelled, precedes, follows⟩ := @ih stretch (first :: rest) tail
        rcases precedes with ⟨-, empty⟩ | ⟨pieces, blanks, rfl, stretched⟩
        · cases empty
        · exact ⟨piece :: (pieces ++ [.gap blanks]), back, congrArg (piece :: ·) spelled,
            .inr ⟨piece :: pieces, blanks, rfl, stretches_cons kind stretched⟩, follows⟩

theorem stretches_of_solid (solid : ∀ piece ∈ stretch, piece.isGap = false) :
    stretches stretch = [stretch] := by
  induction stretch with
  | nil => rfl
  | cons piece more ih =>
    obtain ⟨first, later⟩ := List.forall_mem_cons.1 solid
    exact stretches_cons first (ih later)

/-- A stretch between gaps is found as it is, whatever stands beyond the gaps. -/
theorem stretches_around (precedes : Precedes earlier front) (follows : Follows later back)
    (solid : ∀ piece ∈ stretch, piece.isGap = false) :
    stretches (front ++ stretch ++ back) = earlier ++ stretch :: later := by
  have tail : stretches (stretch ++ back) = stretch :: later := by
    rcases follows with ⟨rfl, rfl⟩ | ⟨blanks, pieces, rfl, rfl⟩
    · rw [List.append_nil, stretches_of_solid solid]
    · rw [stretches_append_gap, stretches_of_solid solid, List.singleton_append]
  rcases precedes with ⟨rfl, rfl⟩ | ⟨pieces, blanks, rfl, rfl⟩
  · exact tail
  · rw [List.append_assoc, List.append_assoc, List.singleton_append, stretches_append_gap, tail]

theorem lexed_append_iff {first second : List Piece} :
    Lexed (first ++ second) ↔
      Lexed first ∧ Lexed second ∧ ∀ piece ∈ first.getLast?, ∀ next ∈ second.head?, Apart piece next := by
  constructor
  · rintro ⟨wellFormed, apart⟩
    obtain ⟨firstFormed, secondFormed⟩ := List.forall_mem_append.1 wellFormed
    obtain ⟨firstApart, secondApart, beside⟩ := List.isChain_append.1 apart
    exact ⟨⟨firstFormed, firstApart⟩, ⟨secondFormed, secondApart⟩, beside⟩
  · rintro ⟨lexedFirst, lexedSecond, beside⟩
    exact ⟨List.forall_mem_append.2 ⟨lexedFirst.wellFormed, lexedSecond.wellFormed⟩,
      List.isChain_append.2 ⟨lexedFirst.apart, lexedSecond.apart, beside⟩⟩

theorem Precedes.apart (precedes : Precedes earlier front) {piece next : Piece}
    (isLast : piece ∈ front.getLast?) (solid : next.isGap = false) : Apart piece next := by
  rcases precedes with ⟨rfl, -⟩ | ⟨pieces, blanks, rfl, -⟩
  · cases isLast
  · rw [List.getLast?_concat] at isLast
    cases isLast
    exact (apart_gap solid blanks).2

theorem Follows.apart (follows : Follows later back) {piece next : Piece} (isHead : next ∈ back.head?)
    (solid : piece.isGap = false) : Apart piece next := by
  rcases follows with ⟨rfl, -⟩ | ⟨blanks, pieces, rfl, -⟩
  · cases isHead
  · cases isHead
    exact (apart_gap solid blanks).1

/-- Another stretch in the place of one between gaps. -/
theorem lexed_around {other : List Piece} (lexed : Lexed (front ++ stretch ++ back))
    (precedes : Precedes earlier front) (follows : Follows later back) (lexedOther : Lexed other)
    (isStretch : Stretch other) : Lexed (front ++ other ++ back) := by
  obtain ⟨lexedBefore, lexedBack, -⟩ := lexed_append_iff.1 lexed
  obtain ⟨lexedFront, -, -⟩ := lexed_append_iff.1 lexedBefore
  obtain ⟨piece, more, rfl⟩ := List.exists_cons_of_ne_nil isStretch.nonempty
  refine lexed_append_iff.2 ⟨lexed_append_iff.2 ⟨lexedFront, lexedOther, ?_⟩, lexedBack, ?_⟩
  · intro last isLast next isNext
    cases isNext
    exact precedes.apart isLast (isStretch.solid piece List.mem_cons_self)
  · intro last isLast next isNext
    rw [List.getLast?_append_of_ne_nil _ (List.cons_ne_nil piece more)] at isLast
    exact follows.apart isNext (isStretch.solid last (List.mem_of_mem_getLast? isLast))

theorem stretch_of_mem_stretches {pieces : List Piece} (lexed : Lexed pieces) (solid : Solid pieces)
    (nonempty : pieces ≠ []) (member : stretch ∈ stretches pieces) : Stretch stretch := by
  obtain ⟨first, others, stretched, -, firstStretch, spacing⟩ :=
    exists_stretches_of_solid lexed solid nonempty
  rw [stretched] at member
  rcases List.mem_cons.1 member with rfl | member
  · exact firstStretch
  · obtain ⟨other, isOther, rfl⟩ := List.mem_map.1 member
    exact (spacing other isOther).2

theorem Stretch.startsSolid (isStretch : Stretch stretch) : StartsSolid (stretch.flatMap raw) := by
  obtain ⟨piece, more, rfl⟩ := List.exists_cons_of_ne_nil isStretch.nonempty
  have wellFormed := isStretch.wellFormed piece List.mem_cons_self
  have solid := isStretch.solid piece List.mem_cons_self
  rw [List.flatMap_cons]
  apply StartsSolid.append
  cases piece with
  | gap _ => cases solid
  | quoted body => exact ⟨'"', rfl, by decide⟩
  | separator => exact ⟨':', rfl, by decide⟩
  | bare run =>
    obtain ⟨nonempty, spelled⟩ := wellFormed
    obtain ⟨c, rest, rfl⟩ := List.exists_cons_of_ne_nil nonempty
    exact ⟨c, rfl, isBlank_of_endsBare_eq_false (spelled.head_eq_false (by decide))⟩

end Piece

namespace Segment

/-! ## Segments with blanks around them -/

/-- Texts that are the raw texts of some segments in order, with blanks before, between and behind them. -/
inductive LaidOut : List Segment → Text → Prop
  | blanks {blanks : Text} (blank : allBlank blanks = true) : LaidOut [] blanks
  | segment {lead rest : Text} {first : Segment} {others : List Segment}
      (blank : allBlank lead = true) (later : LaidOut others rest) :
      LaidOut (first :: others) (lead ++ first.rawText ++ rest)

theorem LaidOut.blanks_append {segments : List Segment} {text lead : Text}
    (laidOut : LaidOut segments text) (blank : allBlank lead = true) :
    LaidOut segments (lead ++ text) := by
  cases laidOut with
  | blanks textBlank => exact .blanks (allBlank_append.2 ⟨blank, textBlank⟩)
  | @segment firstLead rest first others firstBlank later =>
    rw [← List.append_assoc, ← List.append_assoc]
    exact .segment (allBlank_append.2 ⟨blank, firstBlank⟩) later

theorem LaidOut.append_blanks {segments : List Segment} {text tail : Text}
    (laidOut : LaidOut segments text) (blank : allBlank tail = true) :
    LaidOut segments (text ++ tail) := by
  induction laidOut with
  | blanks textBlank => exact .blanks (allBlank_append.2 ⟨textBlank, blank⟩)
  | @segment lead rest first others leadBlank _ ih =>
    rw [List.append_assoc]
    exact .segment leadBlank ih

/-- Behind given segments there is one place at which a text can go on that does not begin with a blank. -/
theorem LaidOut.front_unique {segments : List Segment} {front other text otherText : Text}
    (laidOut : LaidOut segments front) (otherLaidOut : LaidOut segments other)
    (rawSolid : ∀ segment ∈ segments, StartsSolid segment.rawText) (solid : StartsSolid text)
    (otherSolid : StartsSolid otherText) (same : front ++ text = other ++ otherText) :
    front = other := by
  induction laidOut generalizing other with
  | blanks blank =>
    cases otherLaidOut with
    | blanks otherBlank => exact solid.lead_unique otherSolid blank otherBlank same
  | @segment lead rest first others blank _ ih =>
    cases otherLaidOut with
    | @segment otherLead otherRest _ _ otherBlank otherLater =>
      obtain ⟨firstSolid, othersSolid⟩ := List.forall_mem_cons.1 rawSolid
      simp only [List.append_assoc] at same
      obtain rfl : lead = otherLead :=
        StartsSolid.lead_unique (firstSolid.append _) (firstSolid.append _) blank otherBlank same
      have sameRest := List.append_cancel_left (List.append_cancel_left same)
      rw [ih otherLater othersSolid sameRest]

open SearchQuery.Piece

theorem exists_laidOut_of_stretches {pieces first : List Piece} {others : List (List Piece)}
    (wellFormed : ∀ piece ∈ pieces, piece.WellFormed) (stretched : stretches pieces = first :: others) :
    ∃ rest, pieces.flatMap raw = first.flatMap raw ++ rest ∧ LaidOut (others.map ofPieces) rest := by
  induction pieces generalizing first others with
  | nil =>
    cases stretched
    exact ⟨[], rfl, .blanks rfl⟩
  | cons piece more ih =>
    obtain ⟨firstFormed, laterFormed⟩ := List.forall_mem_cons.1 wellFormed
    obtain ⟨next, following, tail⟩ := List.exists_cons_of_ne_nil (stretches_ne_nil more)
    obtain ⟨rest, spelled, laidOut⟩ := ih laterFormed tail
    cases kind : piece.isGap with
    | false =>
      rw [stretches_cons kind tail] at stretched
      cases stretched
      refine ⟨rest, ?_, laidOut⟩
      rw [List.flatMap_cons, List.flatMap_cons, spelled, List.append_assoc]
    | true =>
      cases piece with
      | quoted _ => cases kind
      | separator => cases kind
      | bare _ => cases kind
      | gap blanks =>
        rw [Piece.stretches, tail] at stretched
        cases stretched
        refine ⟨blanks ++ next.flatMap raw ++ rest, ?_, ?_⟩
        · rw [List.flatMap_cons, spelled, raw, List.append_assoc]
          rfl
        · exact @LaidOut.segment blanks rest (ofPieces next) _ (allBlank_iff.2 firstFormed.2) laidOut

theorem laidOut_stretches {pieces : List Piece} (wellFormed : ∀ piece ∈ pieces, piece.WellFormed) :
    LaidOut ((stretches pieces).map ofPieces) (pieces.flatMap raw) := by
  obtain ⟨first, others, stretched⟩ := List.exists_cons_of_ne_nil (stretches_ne_nil pieces)
  obtain ⟨rest, spelled, laidOut⟩ := exists_laidOut_of_stretches wellFormed stretched
  rw [stretched, spelled]
  exact @LaidOut.segment [] rest (ofPieces first) _ rfl laidOut

variable {front stretch back : List Piece} {earlier later : List (List Piece)}

theorem laidOut_front (precedes : Precedes earlier front)
    (wellFormed : ∀ piece ∈ front, piece.WellFormed) :
    LaidOut (earlier.map ofPieces) (front.flatMap raw) := by
  rcases precedes with ⟨rfl, rfl⟩ | ⟨pieces, blanks, rfl, rfl⟩
  · exact .blanks rfl
  · obtain ⟨piecesFormed, gapFormed⟩ := List.forall_mem_append.1 wellFormed
    obtain ⟨-, blank⟩ := gapFormed (.gap blanks) List.mem_cons_self
    rw [List.flatMap_append, List.flatMap_singleton]
    exact (laidOut_stretches piecesFormed).append_blanks (allBlank_iff.2 blank)

theorem laidOut_back (follows : Follows later back) (wellFormed : ∀ piece ∈ back, piece.WellFormed) :
    LaidOut (later.map ofPieces) (back.flatMap raw) := by
  rcases follows with ⟨rfl, rfl⟩ | ⟨blanks, pieces, rfl, rfl⟩
  · exact .blanks rfl
  · obtain ⟨⟨-, blank⟩, piecesFormed⟩ := List.forall_mem_cons.1 wellFormed
    rw [List.flatMap_cons]
    exact (laidOut_stretches piecesFormed).blanks_append (allBlank_iff.2 blank)

/-! ## Pieces around a segment -/

/-- The pieces of a segment with those in front of it and behind it, and the blanks at the ends. -/
structure Setting (lead : Text) (front stretch back : List Piece) (tail : Text) : Prop where
  leadBlank : allBlank lead = true
  tailBlank : allBlank tail = true
  lexed : Lexed (front ++ stretch ++ back)
  trimmed : Trimmed ((front ++ stretch ++ back).flatMap raw)
  isStretch : Stretch stretch

variable {lead tail : Text}

theorem Setting.split (setting : Setting lead front stretch back tail)
    (precedes : Precedes earlier front) (follows : Follows later back) :
    Segment.split (lead ++ (front ++ stretch ++ back).flatMap raw ++ tail) =
      .ok (earlier.map ofPieces ++ ofPieces stretch :: later.map ofPieces) := by
  have trimEquation := trim_surrounded setting.leadBlank setting.tailBlank setting.trimmed
  have solid : allBlank (lead ++ (front ++ stretch ++ back).flatMap raw ++ tail) = false := by
    rw [Bool.eq_false_iff, ne_eq, ← trim_eq_nil_iff, trimEquation]
    apply Piece.flatMap_raw_ne_nil setting.lexed.wellFormed
    simp [setting.isStretch.nonempty]
  refine (split_eq_ok_iff solid).2 ⟨_, setting.lexed, trimEquation.symm, ?_⟩
  rw [stretches_around precedes follows setting.isStretch.solid, List.map_append, List.map_cons]

theorem exists_setting {query : Text} {before after : List Segment} {segment : Segment}
    (success : split query = .ok (before ++ segment :: after)) :
    ∃ lead front stretch back tail, Setting lead front stretch back tail ∧
      query = lead ++ (front ++ stretch ++ back).flatMap raw ++ tail ∧ segment = ofPieces stretch ∧
      (∃ earlier, Precedes earlier front ∧ before = earlier.map ofPieces) ∧
      ∃ later, Follows later back ∧ after = later.map ofPieces := by
  have solidQuery : allBlank query = false := by
    rw [Bool.eq_false_iff]
    intro blank
    rw [Segment.split, trim_eq_nil_iff.2 blank] at success
    simp at success
  obtain ⟨pieces, lexed, spelled, parted⟩ := (split_eq_ok_iff solidQuery).1 success
  have trimmed : Trimmed (pieces.flatMap raw) := spelled ▸ trimmed_trim query
  have nonempty : pieces ≠ [] := by
    rintro rfl
    exact trim_ne_nil solidQuery spelled.symm
  obtain ⟨earlier, others, stretched, rfl, partedOthers⟩ := List.map_eq_append_iff.1 parted.symm
  obtain ⟨stretch, later, rfl, rfl, rfl⟩ := List.map_eq_cons_iff.1 partedOthers
  have isStretch := stretch_of_mem_stretches lexed (solid_of_trimmed lexed trimmed) nonempty
    (stretched ▸ List.mem_append_right earlier List.mem_cons_self)
  obtain ⟨front, back, rfl, precedes, follows⟩ := exists_around stretched
  obtain ⟨lead, tail, leadBlank, tailBlank, parts⟩ := exists_trim query
  rw [← spelled] at parts
  exact ⟨lead, front, stretch, back, tail, ⟨leadBlank, tailBlank, lexed, trimmed, isStretch⟩, parts, rfl,
    ⟨earlier, precedes, rfl⟩, later, follows, rfl⟩

theorem startsSolid_of_split {query : Text} {segments : List Segment}
    (success : split query = .ok segments) :
    ∀ segment ∈ segments, StartsSolid segment.rawText := by
  intro segment member
  obtain ⟨before, after, rfl⟩ := List.append_of_mem member
  obtain ⟨lead, front, stretch, back, tail, setting, -, rfl, -⟩ := exists_setting success
  exact setting.isStretch.startsSolid

/-- The texts before and behind a segment's raw text, which hold the other segments. -/
structure StandsBetween (query : Text) (before : List Segment) (segment : Segment)
    (after : List Segment) (front back : Text) : Prop where
  spelled : query = front ++ segment.rawText ++ back
  earlier : LaidOut before front
  later : LaidOut after back

theorem Setting.standsBetween (setting : Setting lead front stretch back tail)
    (precedes : Precedes earlier front) (follows : Follows later back) :
    StandsBetween (lead ++ (front ++ stretch ++ back).flatMap raw ++ tail) (earlier.map ofPieces)
      (ofPieces stretch) (later.map ofPieces) (lead ++ front.flatMap raw) (back.flatMap raw ++ tail) := by
  obtain ⟨formedBefore, formedBack⟩ := List.forall_mem_append.1 setting.lexed.wellFormed
  obtain ⟨formedFront, -⟩ := List.forall_mem_append.1 formedBefore
  refine ⟨?_, (laidOut_front precedes formedFront).blanks_append setting.leadBlank,
    (laidOut_back follows formedBack).append_blanks setting.tailBlank⟩
  simp [ofPieces]

theorem StandsBetween.unique {query front back otherFront otherBack : Text}
    {before after : List Segment} {segment : Segment}
    (success : Segment.split query = .ok (before ++ segment :: after))
    (place : StandsBetween query before segment after front back)
    (other : StandsBetween query before segment after otherFront otherBack) :
    otherFront = front ∧ otherBack = back := by
  obtain ⟨rawSolid, laterSolid⟩ := List.forall_mem_append.1 (startsSolid_of_split success)
  have solid := laterSolid segment List.mem_cons_self
  have same : otherFront ++ (segment.rawText ++ otherBack) = front ++ (segment.rawText ++ back) := by
    rw [← List.append_assoc, ← List.append_assoc, ← other.spelled, place.spelled]
  obtain rfl : otherFront = front :=
    other.earlier.front_unique place.earlier rawSolid (solid.append _) (solid.append _) same
  exact ⟨rfl, List.append_cancel_left (List.append_cancel_left same)⟩

end Segment

end SearchQuery
