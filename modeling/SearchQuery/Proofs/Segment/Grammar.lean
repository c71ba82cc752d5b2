import Mathlib.Data.List.Chain
import SearchQuery.Proofs.Outcome
import SearchQuery.Proofs.Text.Trim
import SearchQuery.Segment.Basic

/-!
# The grammar of pieces

A list of pieces is well formed when every piece is spelled as its kind demands and no two neighbours
could be taken for one piece.  Cutting a text succeeds exactly on the texts that a well-formed list of
pieces spells, and gives that list back, so every later statement about cut texts is a statement about
lists of pieces.
-/

set_option autoImplicit false

namespace SearchQuery.Piece

open SearchQuery.Text

/-! ## Runs of escapes and plain characters -/

/-- Texts in which every backslash takes a character with it and no other character stops. -/
inductive Run (stops : Char → Bool) : Text → Prop
  | nil : Run stops []
  | escape {c : Char} {rest : Text} : Run stops rest → Run stops ('\\' :: c :: rest)
  | plain {c : Char} {rest : Text} :
      c ≠ '\\' → stops c = false → Run stops rest → Run stops (c :: rest)

/-- The character that closes a quoted span. -/
def closesQuote (c : Char) : Bool :=
  c = '"'

/-- The characters before which a bare run ends. -/
def endsBare (c : Char) : Bool :=
  isBlank c || c = '"' || c = ':'

theorem Run.head_eq_false {stops : Char → Bool} {c : Char} {rest : Text}
    (run : Run stops (c :: rest)) (backslash : stops '\\' = false) : stops c = false := by
  cases run with
  | escape _ => exact backslash
  | plain _ goesOn _ => exact goesOn

theorem ne_of_differ {p : Char → Bool} {c d : Char} (holds : p c = true) (fails : p d = false) :
    c ≠ d := by
  rintro rfl
  exact absurd holds (Bool.eq_false_iff.1 fails)

/-- What remains when neither of the patterns that begin with a backslash applies. -/
theorem ne_backslash {c : Char} {rest : Text} (notLast : c = '\\' → rest = [] → False)
    (notEscape : ∀ d more, c = '\\' → rest = d :: more → False) : c ≠ '\\' := by
  intro backslash
  cases rest with
  | nil => exact notLast backslash rfl
  | cons d more => exact notEscape d more backslash rfl

theorem unescape_plain {c : Char} (ordinary : c ≠ '\\') (rest : Text) :
    unescape (c :: rest) = c :: unescape rest := by
  rw [unescape]
  · exact fun equal _ => ordinary equal
  · exact fun _ _ equal _ => ordinary equal

theorem closeQuote?_plain {c : Char} (ordinary : c ≠ '\\') (rest : Text) :
    closeQuote? (c :: rest) =
      if c = '"' then some ([], rest)
      else (closeQuote? rest).map fun cut => (c :: cut.1, cut.2) := by
  rw [closeQuote?]
  · exact fun equal _ => ordinary equal
  · exact fun _ _ equal _ => ordinary equal

theorem closeQuote?_append_quote {body : Text} (run : Run closesQuote body) (rest : Text) :
    closeQuote? (body ++ '"' :: rest) = some (body, rest) := by
  induction run with
  | nil => rfl
  | @escape c more _ ih =>
    rw [List.cons_append, List.cons_append, closeQuote?, ih]
    rfl
  | @plain c more ordinary goesOn _ ih =>
    have noQuote : c ≠ '"' := of_decide_eq_false goesOn
    rw [List.cons_append, closeQuote?_plain ordinary, if_neg noQuote, ih]
    rfl

theorem run_of_closeQuote? {s body rest : Text} (closed : closeQuote? s = some (body, rest)) :
    s = body ++ '"' :: rest ∧ Run closesQuote body := by
  fun_induction closeQuote? s generalizing body rest with
  | case1 => cases closed
  | case2 => cases closed
  | case3 c more ih =>
    obtain ⟨⟨inner, after⟩, cutEquation, equal⟩ := Option.map_eq_some_iff.1 closed
    obtain ⟨rfl, rfl⟩ := Prod.mk.inj equal
    obtain ⟨spelled, run⟩ := ih cutEquation
    exact ⟨by rw [spelled]; rfl, run.escape⟩
  | case4 more =>
    obtain ⟨rfl, rfl⟩ := Prod.mk.inj (Option.some.inj closed)
    exact ⟨rfl, .nil⟩
  | case5 c more notLast notEscape noQuote ih =>
    obtain ⟨⟨inner, after⟩, cutEquation, equal⟩ := Option.map_eq_some_iff.1 closed
    obtain ⟨rfl, rfl⟩ := Prod.mk.inj equal
    obtain ⟨spelled, run⟩ := ih cutEquation
    have ordinary := ne_backslash notLast notEscape
    exact ⟨by rw [spelled]; rfl, run.plain ordinary (decide_eq_false noQuote)⟩

theorem bareRun_plain {c : Char} (ordinary : c ≠ '\\') (rest : Text) :
    bareRun (c :: rest) =
      if endsBare c then ([], c :: rest) else (c :: (bareRun rest).1, (bareRun rest).2) := by
  rw [bareRun.eq_def, endsBare]
  split
  next equal => cases equal
  next equal => exact absurd (List.cons.inj equal).1 ordinary
  next equal => exact absurd (List.cons.inj equal).1 ordinary
  next equal =>
    cases equal
    rfl

theorem bareRun_escape (c : Char) (rest : Text) :
    bareRun ('\\' :: c :: rest) = ('\\' :: c :: (bareRun rest).1, (bareRun rest).2) := by
  rw [bareRun.eq_def]
  simp only []

theorem run_of_bareRun (s : Text) :
    s = (bareRun s).1 ++ (bareRun s).2 ∧ Run endsBare (bareRun s).1 := by
  fun_induction bareRun s with
  | case1 => exact ⟨rfl, .nil⟩
  | case2 => exact ⟨rfl, .nil⟩
  | case3 c rest ih =>
    obtain ⟨spelled, run⟩ := ih
    exact ⟨congrArg ('\\' :: c :: ·) spelled, run.escape⟩
  | case4 c rest => exact ⟨rfl, .nil⟩
  | case5 c rest notLast notEscape goesOn ih =>
    obtain ⟨spelled, run⟩ := ih
    have ordinary := ne_backslash notLast notEscape
    exact ⟨congrArg (c :: ·) spelled, run.plain ordinary (Bool.eq_false_iff.2 goesOn)⟩

/-- A bare run ends with the text, before a character that ends it, or before a dangling backslash. -/
theorem bareRun_snd (s : Text) :
    (bareRun s).2 = [] ∨ (bareRun s).2 = ['\\'] ∨
      ∃ c rest, (bareRun s).2 = c :: rest ∧ endsBare c = true := by
  fun_induction bareRun s with
  | case1 => exact .inl rfl
  | case2 => exact .inr (.inl rfl)
  | case3 c rest ih => exact ih
  | case4 c rest _ _ ends => exact .inr (.inr ⟨c, rest, rfl, ends⟩)
  | case5 c rest _ _ _ ih => exact ih

theorem bareRun_append {run rest : Text} (spelled : Run endsBare run)
    (boundary : ∀ c ∈ rest.head?, endsBare c = true) : bareRun (run ++ rest) = (run, rest) := by
  induction spelled with
  | nil =>
    cases rest with
    | nil => rfl
    | cons c rest =>
      have ends : endsBare c = true := boundary c rfl
      have ordinary : c ≠ '\\' := ne_of_differ ends (by decide)
      rw [List.nil_append, bareRun_plain ordinary, if_pos ends]
  | @escape c more _ ih => rw [List.cons_append, List.cons_append, bareRun_escape, ih]
  | @plain c more ordinary goesOn _ ih =>
    rw [List.cons_append, bareRun_plain ordinary, if_neg (Bool.eq_false_iff.1 goesOn), ih]

/-! ## Well-formed lists of pieces -/

/-- What a piece of each kind is made of. -/
def WellFormed : Piece → Prop
  | .quoted body => Run closesQuote body
  | .separator => True
  | .bare run => run ≠ [] ∧ Run endsBare run
  | .gap blanks => blanks ≠ [] ∧ ∀ c ∈ blanks, isBlank c = true

/-- Two bare runs or two gaps side by side would be one. -/
def Apart : Piece → Piece → Prop
  | .bare _, .bare _ => False
  | .gap _, .gap _ => False
  | _, _ => True

structure Lexed (pieces : List Piece) : Prop where
  wellFormed : ∀ piece ∈ pieces, piece.WellFormed
  apart : pieces.IsChain Apart

/-- Where a piece ends in front of some text: a bare run before a character that ends it, a gap before
a character that is no blank. -/
def EndsBefore (rest : Text) : Piece → Prop
  | .bare _ => ∀ c ∈ rest.head?, endsBare c = true
  | .gap _ => ∀ c ∈ rest.head?, isBlank c = false
  | _ => True

/-! ## One step of cutting -/

theorem cut_nil : cut [] = .ok [] := by
  rw [cut.eq_def]

theorem cut_dangling : cut ['\\'] = .error (.danglingEscape, ['\\']) := by
  rw [cut.eq_def]
  simp only []

theorem cut_separator (rest : Text) : cut (':' :: rest) = (cut rest).map (.separator :: ·) := by
  rw [cut.eq_def]
  simp only []

theorem cut_escape (c : Char) (rest : Text) :
    cut ('\\' :: c :: rest) =
      (cut (bareRun rest).2).map (.bare ('\\' :: c :: (bareRun rest).1) :: ·) := by
  rw [cut.eq_def]
  simp only []

theorem cut_quoted {rest body after : Text} (closed : closeQuote? rest = some (body, after)) :
    cut ('"' :: rest) = (cut after).map (.quoted body :: ·) := by
  rw [cut.eq_def]
  simp only []
  split
  next unclosed => cases closed.symm.trans unclosed
  next equal =>
    cases closed.symm.trans equal
    rfl

theorem cut_plain {c : Char} (noQuote : c ≠ '"') (noSeparator : c ≠ ':') (ordinary : c ≠ '\\')
    (rest : Text) :
    cut (c :: rest) =
      if isBlank c then
        (cut (rest.dropWhile isBlank)).map (.gap (c :: rest.takeWhile isBlank) :: ·)
      else (cut (bareRun rest).2).map (.bare (c :: (bareRun rest).1) :: ·) := by
  rw [cut.eq_def]
  split
  next equal => cases equal
  next equal => exact absurd (List.cons.inj equal).1 noQuote
  next equal => exact absurd (List.cons.inj equal).1 noSeparator
  next equal => exact absurd (List.cons.inj equal).1 ordinary
  next equal => exact absurd (List.cons.inj equal).1 ordinary
  next equal =>
    cases equal
    rfl

theorem cut_bare {c : Char} (ordinary : c ≠ '\\') (goesOn : endsBare c = false) (rest : Text) :
    cut (c :: rest) = (cut (bareRun rest).2).map (.bare (c :: (bareRun rest).1) :: ·) := by
  simp only [endsBare, Bool.or_eq_false_iff, decide_eq_false_iff_not] at goesOn
  obtain ⟨⟨solid, noQuote⟩, noSeparator⟩ := goesOn
  rw [cut_plain noQuote noSeparator ordinary, if_neg (Bool.eq_false_iff.1 solid)]

theorem cut_gap {c : Char} (blank : isBlank c = true) (rest : Text) :
    cut (c :: rest) =
      (cut (rest.dropWhile isBlank)).map (.gap (c :: rest.takeWhile isBlank) :: ·) := by
  have noQuote : c ≠ '"' := ne_of_differ blank (by decide)
  have noSeparator : c ≠ ':' := ne_of_differ blank (by decide)
  have ordinary : c ≠ '\\' := ne_of_differ blank (by decide)
  rw [cut_plain noQuote noSeparator ordinary, if_pos blank]

/-- A well-formed piece is cut off the text in front of which it ends. -/
theorem cut_raw_append {piece : Piece} (wellFormed : piece.WellFormed) {rest : Text}
    (ends : piece.EndsBefore rest) : cut (piece.raw ++ rest) = (cut rest).map (piece :: ·) := by
  cases piece with
  | quoted body =>
    have closed := closeQuote?_append_quote wellFormed rest
    rw [← cut_quoted closed, raw]
    simp
  | separator => rw [raw, List.singleton_append, cut_separator]
  | bare run =>
    obtain ⟨nonempty, spelled⟩ := wellFormed
    cases spelled with
    | nil => exact absurd rfl nonempty
    | @escape c more spelled =>
      rw [raw, List.cons_append, List.cons_append, cut_escape, bareRun_append spelled ends]
    | @plain c more ordinary goesOn spelled =>
      rw [raw, List.cons_append, cut_bare ordinary goesOn, bareRun_append spelled ends]
  | gap blanks =>
    obtain ⟨nonempty, allBlank⟩ := wellFormed
    cases blanks with
    | nil => exact absurd rfl nonempty
    | cons c more =>
      obtain ⟨blank, moreBlank⟩ := List.forall_mem_cons.1 allBlank
      have stop : rest.takeWhile isBlank = [] ∧ rest.dropWhile isBlank = rest := by
        cases rest with
        | nil => exact ⟨rfl, rfl⟩
        | cons d rest => simp [ends d rfl]
      rw [raw, List.cons_append, cut_gap blank, List.takeWhile_append_of_pos moreBlank,
        List.dropWhile_append_of_pos moreBlank, stop.1, stop.2, List.append_nil]

theorem isBlank_of_endsBare_eq_false {c : Char} (goesOn : endsBare c = false) : isBlank c = false := by
  simp only [endsBare, Bool.or_eq_false_iff] at goesOn
  exact goesOn.1.1

/-- A piece ends before a well-formed one exactly when the two cannot be taken for one. -/
theorem endsBefore_raw_append_iff {piece next : Piece} (wellFormed : next.WellFormed) (more : Text) :
    piece.EndsBefore (next.raw ++ more) ↔ Apart piece next := by
  cases piece with
  | quoted _ => cases next <;> exact Iff.rfl
  | separator => cases next <;> exact Iff.rfl
  | bare run =>
    cases next with
    | quoted _ => simp [EndsBefore, Apart, raw, endsBare]
    | separator => simp [EndsBefore, Apart, raw, endsBare]
    | bare nextRun =>
      obtain ⟨nonempty, spelled⟩ := wellFormed
      obtain ⟨c, rest, rfl⟩ := List.exists_cons_of_ne_nil nonempty
      have goesOn := spelled.head_eq_false (by decide)
      simp [EndsBefore, Apart, raw, goesOn]
    | gap blanks =>
      obtain ⟨nonempty, allBlank⟩ := wellFormed
      obtain ⟨c, rest, rfl⟩ := List.exists_cons_of_ne_nil nonempty
      have blank := allBlank c List.mem_cons_self
      simp [EndsBefore, Apart, raw, endsBare, blank]
  | gap _ =>
    cases next with
    | quoted _ => simp [EndsBefore, Apart, raw, show isBlank '"' = false by decide]
    | separator => simp [EndsBefore, Apart, raw, show isBlank ':' = false by decide]
    | bare nextRun =>
      obtain ⟨nonempty, spelled⟩ := wellFormed
      obtain ⟨c, rest, rfl⟩ := List.exists_cons_of_ne_nil nonempty
      have solid := isBlank_of_endsBare_eq_false (spelled.head_eq_false (by decide))
      simp [EndsBefore, Apart, raw, solid]
    | gap blanks =>
      obtain ⟨nonempty, allBlank⟩ := wellFormed
      obtain ⟨c, rest, rfl⟩ := List.exists_cons_of_ne_nil nonempty
      have blank := allBlank c List.mem_cons_self
      simp [EndsBefore, Apart, raw, blank]

theorem endsBefore_nil (piece : Piece) : piece.EndsBefore [] := by
  cases piece <;> simp [EndsBefore]

theorem lexed_nil : Lexed [] :=
  ⟨by simp, .nil⟩

theorem lexed_cons_iff {piece : Piece} {more : List Piece} :
    Lexed (piece :: more) ↔
      piece.WellFormed ∧ piece.EndsBefore (more.flatMap raw) ∧ Lexed more := by
  constructor
  · rintro ⟨wellFormed, apart⟩
    obtain ⟨first, later⟩ := List.forall_mem_cons.1 wellFormed
    obtain ⟨beside, chain⟩ := List.isChain_cons.1 apart
    refine ⟨first, ?_, later, chain⟩
    cases more with
    | nil => exact endsBefore_nil piece
    | cons next more =>
      exact (endsBefore_raw_append_iff (later next List.mem_cons_self) _).2 (beside next rfl)
  · rintro ⟨first, ends, later, chain⟩
    refine ⟨List.forall_mem_cons.2 ⟨first, later⟩, List.isChain_cons.2 ⟨?_, chain⟩⟩
    intro next isNext
    cases more with
    | nil => cases isNext
    | cons following more =>
      cases isNext
      exact (endsBefore_raw_append_iff (later next List.mem_cons_self) _).1 ends

/-! ## Cutting and spelling -/

theorem cut_flatMap_raw {pieces : List Piece} (lexed : Lexed pieces) :
    cut (pieces.flatMap raw) = .ok pieces := by
  induction pieces with
  | nil => exact cut_nil
  | cons piece more ih =>
    obtain ⟨wellFormed, ends, later⟩ := lexed_cons_iff.1 lexed
    rw [List.flatMap_cons, cut_raw_append wellFormed ends, ih later]
    rfl

/-- A bare run that cutting goes on behind ends before what follows. -/
theorem endsBefore_bareRun {rest run : Text} {more : List Piece}
    (success : cut (bareRun rest).2 = .ok more) : (Piece.bare run).EndsBefore (bareRun rest).2 := by
  intro c isHead
  rcases bareRun_snd rest with empty | dangling | ⟨d, after, equal, ends⟩
  · rw [empty] at isHead
    cases isHead
  · rw [dangling, cut_dangling] at success
    cases success
  · rw [equal] at isHead
    cases isHead
    exact ends

theorem endsBefore_dropWhile (blanks rest : Text) :
    (Piece.gap blanks).EndsBefore (rest.dropWhile isBlank) := by
  intro c isHead
  exact isBlank_head_dropWhile isHead

theorem lexed_of_cut {s : Text} {pieces : List Piece} (success : cut s = .ok pieces) :
    Lexed pieces ∧ pieces.flatMap raw = s := by
  fun_induction cut s generalizing pieces with
  | case1 =>
    cases success
    exact ⟨lexed_nil, rfl⟩
  | case2 => cases success
  | case3 rest body after closed ih =>
    obtain ⟨more, cutRest, rfl⟩ := Outcome.map_eq_ok success
    obtain ⟨later, rfl⟩ := ih cutRest
    obtain ⟨rfl, run⟩ := run_of_closeQuote? closed
    exact ⟨lexed_cons_iff.2 ⟨run, trivial, later⟩, by simp [raw]⟩
  | case4 rest ih =>
    obtain ⟨more, cutRest, rfl⟩ := Outcome.map_eq_ok success
    obtain ⟨later, rfl⟩ := ih cutRest
    exact ⟨lexed_cons_iff.2 ⟨trivial, trivial, later⟩, rfl⟩
  | case5 => cases success
  | case6 c rest ih =>
    obtain ⟨more, cutRest, rfl⟩ := Outcome.map_eq_ok success
    obtain ⟨later, spelled⟩ := ih cutRest
    obtain ⟨parted, run⟩ := run_of_bareRun rest
    refine ⟨lexed_cons_iff.2 ⟨⟨by simp, run.escape⟩, ?_, later⟩, ?_⟩
    · rw [spelled]
      exact endsBefore_bareRun cutRest
    · rw [List.flatMap_cons, spelled, raw, List.cons_append, List.cons_append, ← parted]
  | case7 c rest _ _ _ _ blank ih =>
    obtain ⟨more, cutRest, rfl⟩ := Outcome.map_eq_ok success
    obtain ⟨later, spelled⟩ := ih cutRest
    have allBlank : ∀ d ∈ c :: rest.takeWhile isBlank, isBlank d = true :=
      List.forall_mem_cons.2 ⟨blank, List.all_eq_true.1 List.all_takeWhile⟩
    refine ⟨lexed_cons_iff.2 ⟨⟨by simp, allBlank⟩, ?_, later⟩, ?_⟩
    · rw [spelled]
      exact endsBefore_dropWhile _ rest
    · rw [List.flatMap_cons, spelled, raw, List.cons_append, List.takeWhile_append_dropWhile]
  | case8 c rest noQuote noSeparator notLast notEscape solid ih =>
    obtain ⟨more, cutRest, rfl⟩ := Outcome.map_eq_ok success
    obtain ⟨later, spelled⟩ := ih cutRest
    obtain ⟨parted, run⟩ := run_of_bareRun rest
    have goesOn : endsBare c = false := by
      simp only [endsBare, Bool.or_eq_false_iff, decide_eq_false_iff_not]
      exact ⟨⟨Bool.eq_false_iff.2 solid, noQuote⟩, noSeparator⟩
    have ordinary := ne_backslash notLast notEscape
    refine ⟨lexed_cons_iff.2 ⟨⟨by simp, run.plain ordinary goesOn⟩, ?_, later⟩, ?_⟩
    · rw [spelled]
      exact endsBefore_bareRun cutRest
    · rw [List.flatMap_cons, spelled, raw, List.cons_append, ← parted]

/-- Cutting inverts spelling. -/
theorem cut_eq_ok_iff {s : Text} {pieces : List Piece} :
    cut s = .ok pieces ↔ Lexed pieces ∧ pieces.flatMap raw = s := by
  constructor
  · exact lexed_of_cut
  · rintro ⟨lexed, rfl⟩
    exact cut_flatMap_raw lexed

end SearchQuery.Piece
