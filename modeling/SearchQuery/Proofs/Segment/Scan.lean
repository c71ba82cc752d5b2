import SearchQuery.Proofs.Segment.Split

/-!
# Reading a search string character by character

A scan from left to right keeps whether it stands inside quotes and whether a backslash is pending.  A
segment's negation, selector and value are what one scan over its raw text collects: the pieces between
two gaps and the characters they are typed with say the same.
-/

set_option autoImplicit false

namespace SearchQuery

open SearchQuery.Text

/-- Where a scan from left to right stands: inside quotes, right behind a backslash. -/
structure Cursor where
  quoted : Bool
  escaped : Bool
deriving DecidableEq

namespace Cursor

def start : Cursor :=
  ⟨false, false⟩

/-- Neither inside quotes nor behind a backslash. -/
def isOpen (cursor : Cursor) : Bool :=
  !cursor.quoted && !cursor.escaped

def next (cursor : Cursor) (c : Char) : Cursor :=
  if cursor.escaped then ⟨cursor.quoted, false⟩
  else if c = '\\' then ⟨cursor.quoted, true⟩
  else if c = '"' then ⟨!cursor.quoted, false⟩
  else cursor

/-- Whether a character only steers the scan: a backslash or a quote that is not escaped. -/
def drops (cursor : Cursor) (c : Char) : Bool :=
  !cursor.escaped && (c = '\\' || c = '"')

theorem next_backslash (quoted : Bool) : next ⟨quoted, false⟩ '\\' = ⟨quoted, true⟩ := rfl

theorem next_quote (quoted : Bool) : next ⟨quoted, false⟩ '"' = ⟨!quoted, false⟩ := rfl

theorem next_escaped (quoted : Bool) (c : Char) : next ⟨quoted, true⟩ c = ⟨quoted, false⟩ := rfl

theorem next_plain {c : Char} (ordinary : c ≠ '\\') (noQuote : c ≠ '"') (quoted : Bool) :
    next ⟨quoted, false⟩ c = ⟨quoted, false⟩ := by
  simp [next, ordinary, noQuote]

end Cursor

/-- What a scan has collected: the text before the separator, once it has met it, and the text since. -/
structure Scan where
  cursor : Cursor
  selector : Option Text
  text : Text
deriving DecidableEq

namespace Scan

def step (scan : Scan) (c : Char) : Scan :=
  let cursor := scan.cursor.next c
  if scan.cursor.drops c then { scan with cursor }
  else if scan.cursor.isOpen && c = ':' && scan.selector.isNone then ⟨cursor, some scan.text, []⟩
  else { scan with cursor, text := scan.text ++ [c] }

def run (s : Text) : Scan :=
  s.foldl step ⟨.start, none, []⟩

end Scan

/-- Whether a segment's raw text begins with a dash and goes on behind it. -/
def Segment.isDashed (rawText : Text) : Bool :=
  rawText.head? = some '-' && rawText ≠ ['-']

/-- The segment that one scan over its raw text gives. -/
def Segment.scan (rawText : Text) : Segment :=
  let negated := isDashed rawText
  let scanned := Scan.run (if negated then rawText.tail else rawText)
  { rawText, selector := scanned.selector.filter (!·.isEmpty), value := scanned.text, negated }

namespace Scan

variable (quoted : Bool) (selector : Option Text) (text : Text)

theorem step_backslash :
    step ⟨⟨quoted, false⟩, selector, text⟩ '\\' = ⟨⟨quoted, true⟩, selector, text⟩ := rfl

theorem step_quote :
    step ⟨⟨quoted, false⟩, selector, text⟩ '"' = ⟨⟨!quoted, false⟩, selector, text⟩ := rfl

theorem step_escaped (c : Char) :
    step ⟨⟨quoted, true⟩, selector, text⟩ c = ⟨⟨quoted, false⟩, selector, text ++ [c]⟩ := by
  simp [step, Cursor.drops, Cursor.isOpen, Cursor.next]

theorem step_plain {c : Char} (ordinary : c ≠ '\\') (noQuote : c ≠ '"')
    (noDivide : quoted = true ∨ selector.isSome = true ∨ c ≠ ':') :
    step ⟨⟨quoted, false⟩, selector, text⟩ c = ⟨⟨quoted, false⟩, selector, text ++ [c]⟩ := by
  have kept : (Cursor.mk quoted false).drops c = false := by simp [Cursor.drops, ordinary, noQuote]
  have noDivision :
      ((Cursor.mk quoted false).isOpen && decide (c = ':') && selector.isNone) = false := by
    rcases noDivide with rfl | isSome | other
    · rfl
    · simp [isSome]
    · simp [other]
  rw [step, if_neg (Bool.eq_false_iff.1 kept), if_neg (Bool.eq_false_iff.1 noDivision),
    Cursor.next_plain ordinary noQuote]

theorem step_separator :
    step ⟨.start, none, text⟩ ':' = ⟨.start, some text, []⟩ := rfl

end Scan

namespace Piece

theorem foldl_step_run {stops : Char → Bool} {s : Text} (run : Run stops s) (quote : stops '"' = true)
    (quoted : Bool) (selector : Option Text)
    (guarded : quoted = true ∨ selector.isSome = true ∨ stops ':' = true) (text : Text) :
    s.foldl Scan.step ⟨⟨quoted, false⟩, selector, text⟩ =
      ⟨⟨quoted, false⟩, selector, text ++ unescape s⟩ := by
  induction run generalizing text with
  | nil => rw [List.foldl_nil, unescape, List.append_nil]
  | @escape c more _ ih =>
    rw [List.foldl_cons, List.foldl_cons, Scan.step_backslash, Scan.step_escaped, ih, unescape,
      List.append_assoc, List.singleton_append]
  | @plain c more ordinary goesOn _ ih =>
    have noQuote : c ≠ '"' := (ne_of_differ quote goesOn).symm
    have noDivide : quoted = true ∨ selector.isSome = true ∨ c ≠ ':' :=
      guarded.imp_right (Or.imp_right fun colon => (ne_of_differ colon goesOn).symm)
    rw [List.foldl_cons, Scan.step_plain _ _ _ ordinary noQuote noDivide, ih,
      unescape_plain ordinary, List.append_assoc, List.singleton_append]

/-- A piece adds its content, unless it is the separator that divides the segment. -/
theorem foldl_step_raw {piece : Piece} (wellFormed : piece.WellFormed) (solid : piece.isGap = false)
    {selector : Option Text} (passed : selector.isSome = true ∨ piece ≠ .separator) (text : Text) :
    piece.raw.foldl Scan.step ⟨.start, selector, text⟩ =
      ⟨.start, selector, text ++ piece.content⟩ := by
  cases piece with
  | quoted body =>
    rw [raw, List.cons_append, List.foldl_cons, Cursor.start, Scan.step_quote, List.foldl_append,
      Bool.not_false, foldl_step_run wellFormed rfl true selector (.inl rfl), List.foldl_cons,
      Scan.step_quote, List.foldl_nil, content, Bool.not_true]
  | separator =>
    have isSome : selector.isSome = true := passed.resolve_right fun other => other rfl
    exact Scan.step_plain (c := ':') false selector text (by decide) (by decide) (.inr (.inl isSome))
  | bare run => exact foldl_step_run wellFormed.2 rfl false selector (.inr (.inr rfl)) text
  | gap _ => cases solid

theorem foldl_step_flatMap_raw {pieces : List Piece}
    (wellFormed : ∀ piece ∈ pieces, piece.WellFormed)
    (solid : ∀ piece ∈ pieces, piece.isGap = false) {selector : Option Text}
    (passed : selector.isSome = true ∨ ∀ piece ∈ pieces, piece ≠ .separator) (text : Text) :
    (pieces.flatMap raw).foldl Scan.step ⟨.start, selector, text⟩ =
      ⟨.start, selector, text ++ contents pieces⟩ := by
  induction pieces generalizing text with
  | nil => rw [List.flatMap_nil, List.foldl_nil, contents, List.flatMap_nil, List.append_nil]
  | cons piece more ih =>
    obtain ⟨firstFormed, laterFormed⟩ := List.forall_mem_cons.1 wellFormed
    obtain ⟨firstSolid, laterSolid⟩ := List.forall_mem_cons.1 solid
    have firstPassed : selector.isSome = true ∨ piece ≠ .separator :=
      passed.imp_right fun none => none piece List.mem_cons_self
    have laterPassed : selector.isSome = true ∨ ∀ next ∈ more, next ≠ .separator :=
      passed.imp_right fun none next member => none next (List.mem_cons_of_mem _ member)
    rw [List.flatMap_cons, List.foldl_append, foldl_step_raw firstFormed firstSolid firstPassed,
      ih laterFormed laterSolid laterPassed, contents, contents, List.flatMap_cons,
      List.append_assoc]

/-- The scan divides the pieces at the first separator. -/
theorem divide_eq_run {pieces : List Piece} (wellFormed : ∀ piece ∈ pieces, piece.WellFormed)
    (solid : ∀ piece ∈ pieces, piece.isGap = false) :
    divide pieces =
      ((Scan.run (pieces.flatMap raw)).selector.filter (!·.isEmpty),
        (Scan.run (pieces.flatMap raw)).text) := by
  by_cases divided : .separator ∈ pieces
  · obtain ⟨before, after, rfl, none⟩ := List.eq_append_cons_of_mem divided
    obtain ⟨formedBefore, formedAfter⟩ := List.forall_mem_append.1 wellFormed
    obtain ⟨solidBefore, solidAfter⟩ := List.forall_mem_append.1 solid
    have undivided : ∀ piece ∈ before, piece ≠ .separator :=
      fun piece member equal => none (equal ▸ member)
    have scanned : Scan.run ((before ++ .separator :: after).flatMap raw) =
        ⟨.start, some (contents before), contents after⟩ := by
      rw [Scan.run, List.flatMap_append, List.foldl_append,
        foldl_step_flatMap_raw formedBefore solidBefore (.inr undivided), List.flatMap_cons, raw,
        List.singleton_append, List.foldl_cons, List.nil_append, Scan.step_separator,
        foldl_step_flatMap_raw (List.forall_mem_cons.1 formedAfter).2
          (List.forall_mem_cons.1 solidAfter).2 (.inl rfl), List.nil_append]
    rw [scanned, divide_append_separator none, Option.filter_some]
    cases contents before with
    | nil => rfl
    | cons _ _ => rfl
  · have undivided : ∀ piece ∈ pieces, piece ≠ .separator :=
      fun piece member equal => divided (equal ▸ member)
    rw [Scan.run, foldl_step_flatMap_raw wellFormed solid (.inr undivided),
      divide_of_not_mem divided]
    rfl

end Piece

namespace Segment

theorem isDashed_of_head_ne {rawText : Text} (noDash : rawText.head? ≠ some '-') :
    isDashed rawText = false := by
  simp [isDashed, noDash]

theorem isDashed_cons {rest : Text} (nonempty : rest ≠ []) : isDashed ('-' :: rest) = true := by
  simp [isDashed, nonempty]

theorem ofPieces_of_undashed {pieces : List Piece}
    (wellFormed : ∀ piece ∈ pieces, piece.WellFormed)
    (solid : ∀ piece ∈ pieces, piece.isGap = false)
    (taken : Piece.takeNegation pieces = (false, pieces))
    (noDash : isDashed (pieces.flatMap Piece.raw) = false) :
    ofPieces pieces = scan (pieces.flatMap Piece.raw) := by
  simp only [ofPieces, taken, Piece.divide_eq_run wellFormed solid, scan, noDash]
  rfl

theorem ofPieces_of_dashed {pieces body : List Piece} (wellFormed : ∀ piece ∈ body, piece.WellFormed)
    (solid : ∀ piece ∈ body, piece.isGap = false)
    (taken : Piece.takeNegation pieces = (true, body))
    (spelled : pieces.flatMap Piece.raw = '-' :: body.flatMap Piece.raw)
    (nonempty : body.flatMap Piece.raw ≠ []) :
    ofPieces pieces = scan (pieces.flatMap Piece.raw) := by
  simp only [ofPieces, taken, Piece.divide_eq_run wellFormed solid, scan, spelled,
    isDashed_cons nonempty]
  rfl

/-- A stretch without gaps gives the segment that a scan over its raw text gives. -/
theorem ofPieces_eq_scan {pieces : List Piece} (wellFormed : ∀ piece ∈ pieces, piece.WellFormed)
    (solid : ∀ piece ∈ pieces, piece.isGap = false) :
    ofPieces pieces = scan (pieces.flatMap Piece.raw) := by
  cases pieces with
  | nil => rfl
  | cons piece rest =>
    obtain ⟨firstFormed, laterFormed⟩ := List.forall_mem_cons.1 wellFormed
    obtain ⟨firstSolid, laterSolid⟩ := List.forall_mem_cons.1 solid
    cases piece with
    | gap _ => cases firstSolid
    | quoted body =>
      exact ofPieces_of_undashed wellFormed solid rfl (isDashed_of_head_ne (by simp [Piece.raw]))
    | separator =>
      exact ofPieces_of_undashed wellFormed solid rfl (isDashed_of_head_ne (by simp [Piece.raw]))
    | bare run =>
      obtain ⟨nonempty, spelled⟩ := firstFormed
      obtain ⟨c, more, rfl⟩ := List.exists_cons_of_ne_nil nonempty
      by_cases dash : c = '-'
      · subst dash
        cases more with
        | cons d more =>
          -- The dash is cut off a longer bare run.
          have runMore : Piece.Run Piece.endsBare (d :: more) := by
            cases spelled with
            | plain _ _ runMore => exact runMore
          have formed : ∀ piece ∈ Piece.bare (d :: more) :: rest, piece.WellFormed :=
            List.forall_mem_cons.2 ⟨⟨by simp, runMore⟩, laterFormed⟩
          have unblank : ∀ piece ∈ Piece.bare (d :: more) :: rest, piece.isGap = false :=
            List.forall_mem_cons.2 ⟨rfl, laterSolid⟩
          exact ofPieces_of_dashed formed unblank rfl rfl (by simp [Piece.raw])
        | nil =>
          cases rest with
          | nil => rfl
          | cons next rest =>
            have nextNonempty := Piece.raw_ne_nil (laterFormed next List.mem_cons_self)
            exact ofPieces_of_dashed laterFormed laterSolid rfl rfl (by simp [nextNonempty])
      · have noDash : (c :: more).head? ≠ some '-' := by simp [dash]
        exact ofPieces_of_undashed wellFormed solid (Piece.takeNegation_of_head_ne noDash rest)
          (isDashed_of_head_ne (by simp [Piece.raw, dash]))

end Segment

end SearchQuery
