import SearchQuery.Console.Markup
import Mathlib.Data.List.Basic

/-!
# Escaped texts

An escaped text has the tokens of the text itself, but every tag in it is literal.  What stands behind an escaped
text is read as if the text were not there, but for the backslashes at its end; only a closing bracket that comes before
any opening one could end a tag that the text left unfinished.
-/

set_option autoImplicit false

namespace SearchQuery.Markup

/-! ## Tags -/

/-- What may stand between the brackets of a tag. -/
structure IsTag (inside : Text) : Prop where
  starts : inside.head?.any isTagStart = true
  unbracketed : ∀ c ∈ inside, c ≠ '[' ∧ c ≠ ']'

theorem untilClosing?_eq_some_iff {s inside after : Text} :
    untilClosing? s = some (inside, after) ↔
      s = inside ++ ']' :: after ∧ ∀ c ∈ inside, c ≠ '[' ∧ c ≠ ']' := by
  induction s generalizing inside with
  | nil => simp [untilClosing?]
  | cons c rest ih =>
    rw [untilClosing?]
    by_cases closing : c = ']'
    · subst closing
      rw [if_pos rfl]
      constructor
      · intro found
        cases found
        exact ⟨rfl, by simp⟩
      · rintro ⟨spelled, plain⟩
        cases inside with
        | nil =>
          cases spelled
          rfl
        | cons d more =>
          obtain ⟨rfl, -⟩ := List.cons.inj spelled
          exact absurd rfl (plain ']' List.mem_cons_self).2
    · rw [if_neg closing]
      by_cases opening : c = '['
      · subst opening
        rw [if_pos rfl]
        constructor
        · intro found
          cases found
        · rintro ⟨spelled, plain⟩
          cases inside with
          | nil => cases spelled
          | cons d more =>
            obtain ⟨rfl, -⟩ := List.cons.inj spelled
            exact absurd rfl (plain '[' List.mem_cons_self).1
      · rw [if_neg opening, Option.map_eq_some_iff]
        constructor
        · rintro ⟨⟨more, behind⟩, found, equal⟩
          obtain ⟨rfl, rfl⟩ := Prod.mk.inj equal
          obtain ⟨rfl, plain⟩ := ih.1 found
          exact ⟨rfl, List.forall_mem_cons.2 ⟨⟨opening, closing⟩, plain⟩⟩
        · rintro ⟨spelled, plain⟩
          cases inside with
          | nil =>
            obtain ⟨rfl, -⟩ := List.cons.inj spelled
            exact absurd rfl closing
          | cons d more =>
            obtain ⟨rfl, rfl⟩ := List.cons.inj spelled
            exact ⟨(more, after), ih.2 ⟨rfl, (List.forall_mem_cons.1 plain).2⟩, rfl⟩

theorem isTagStart_ne {c : Char} (starts : isTagStart c = true) : c ≠ '[' ∧ c ≠ ']' ∧ c ≠ '\\' := by
  refine ⟨?_, ?_, ?_⟩ <;>
    · rintro rfl
      revert starts
      decide

/-- A tag is what goes up to a closing bracket, if it starts as a tag. -/
theorem tag?_eq (s : Text) : tag? s = if s.head?.any isTagStart then untilClosing? s else none := by
  cases s with
  | nil => rfl
  | cons c rest =>
    rw [tag?, List.head?_cons, Option.any_some]
    split
    next starts =>
      obtain ⟨notOpening, notClosing, -⟩ := isTagStart_ne starts
      rw [untilClosing?, if_neg notClosing, if_neg notOpening]
    next => rfl

theorem tag?_eq_some_iff {s inside after : Text} :
    tag? s = some (inside, after) ↔ IsTag inside ∧ s = inside ++ ']' :: after := by
  have sameStart : s = inside ++ ']' :: after →
      s.head?.any isTagStart = inside.head?.any isTagStart := by
    rintro rfl
    cases inside <;> rfl
  rw [tag?_eq]
  constructor
  · intro found
    split at found
    next starts =>
      obtain ⟨spelled, plain⟩ := untilClosing?_eq_some_iff.1 found
      exact ⟨⟨(sameStart spelled).symm.trans starts, plain⟩, spelled⟩
    next => cases found
  · rintro ⟨isTag, spelled⟩
    rw [sameStart spelled, isTag.starts, if_pos rfl]
    exact untilClosing?_eq_some_iff.2 ⟨spelled, isTag.unbracketed⟩

/-- A text that does not go on to a closing bracket finishes no tag. -/
theorem tag?_append {s suffix : Text} (unfinished : tag? s = none)
    (unclosed : untilClosing? suffix = none) : tag? (s ++ suffix) = none := by
  cases found : tag? (s ++ suffix) with
  | none => rfl
  | some cut =>
    obtain ⟨inside, after⟩ := cut
    obtain ⟨isTag, spelled⟩ := tag?_eq_some_iff.1 found
    obtain ⟨more, rfl, behind⟩ | ⟨more, rfl, behind⟩ := List.append_eq_append_iff.1 spelled
    · have closed : untilClosing? suffix = some (more, after) := by
        refine untilClosing?_eq_some_iff.2 ⟨behind, fun c member => ?_⟩
        exact isTag.unbracketed c (List.mem_append_right s member)
      cases unclosed.symm.trans closed
    · cases more with
      | nil =>
        have closed : untilClosing? suffix = some ([], after) :=
          untilClosing?_eq_some_iff.2 ⟨behind.symm, by simp⟩
        cases unclosed.symm.trans closed
      | cons c rest =>
        obtain ⟨rfl, -⟩ := List.cons.inj behind
        have finished : tag? (inside ++ ']' :: rest) = some (inside, rest) :=
          tag?_eq_some_iff.2 ⟨isTag, rfl⟩
        cases unfinished.symm.trans finished

/-! ## Tokens -/

theorem tokens_nil (pending : Nat) : tokens pending [] = List.replicate pending (.plain '\\') := by
  rw [tokens]

theorem tokens_backslash (pending : Nat) (rest : Text) :
    tokens pending ('\\' :: rest) = tokens (pending + 1) rest := by
  rw [tokens]
  simp

theorem tokens_tag {inside : Text} (isTag : IsTag inside) (pending : Nat) (after : Text) :
    tokens pending (bracketed inside ++ after) = .tag pending inside :: tokens 0 after := by
  have found : tag? (inside ++ ']' :: after) = some (inside, after) := tag?_eq_some_iff.2 ⟨isTag, rfl⟩
  have spelled : bracketed inside ++ after = '[' :: (inside ++ ']' :: after) := by simp [bracketed]
  rw [spelled, tokens]
  simp only [Char.reduceEq, if_false, if_true]
  split
  next foundInside foundAfter alsoFound =>
    obtain ⟨rfl, rfl⟩ := Prod.mk.inj (Option.some.inj (found.symm.trans alsoFound))
    rfl
  next missing => cases found.symm.trans missing

theorem tokens_bracket {rest : Text} (noTag : tag? rest = none) (pending : Nat) :
    tokens pending ('[' :: rest) =
      List.replicate pending (.plain '\\') ++ .plain '[' :: tokens 0 rest := by
  rw [tokens]
  simp only [Char.reduceEq, if_false, if_true]
  split
  next found => cases noTag.symm.trans found
  next => rfl

theorem tokens_other {c : Char} (notBackslash : c ≠ '\\') (notBracket : c ≠ '[') (pending : Nat)
    (rest : Text) :
    tokens pending (c :: rest) = List.replicate pending (.plain '\\') ++ .plain c :: tokens 0 rest := by
  rw [tokens]
  simp only [notBackslash, notBracket, if_false]

theorem tokens_backslashes (pending count : Nat) (rest : Text) :
    tokens pending (List.replicate count '\\' ++ rest) = tokens (pending + count) rest := by
  induction count generalizing pending with
  | zero => rfl
  | succ count ih =>
    rw [List.replicate_succ, List.cons_append, tokens_backslash, ih]
    congr 1
    omega

/-- The ways in which a text goes on, behind some backslashes. -/
theorem tokens_induction {motive : Nat → Text → Prop} (nil : ∀ pending, motive pending [])
    (backslash : ∀ pending rest, motive (pending + 1) rest → motive pending ('\\' :: rest))
    (tag : ∀ pending inside after, IsTag inside → motive 0 after →
      motive pending (bracketed inside ++ after))
    (bracket : ∀ pending rest, tag? rest = none → motive 0 rest → motive pending ('[' :: rest))
    (other : ∀ pending c rest, c ≠ '\\' → c ≠ '[' → motive 0 rest → motive pending (c :: rest))
    (pending : Nat) (s : Text) : motive pending s := by
  induction pending, s using tokens.induct with
  | case1 pending => exact nil pending
  | case2 pending rest ih => exact backslash pending rest ih
  | case3 pending rest inside after found _ ih =>
    obtain ⟨isTag, rfl⟩ := tag?_eq_some_iff.1 found
    have spelled : '[' :: (inside ++ ']' :: after) = bracketed inside ++ after := by simp [bracketed]
    rw [spelled]
    exact tag pending inside after isTag ih
  | case4 pending rest noTag _ ih => exact bracket pending rest noTag ih
  | case5 pending c rest notBackslash notBracket ih =>
    exact other pending c rest notBackslash notBracket ih

/-- Text in which no bracket opens a tag is plain. -/
theorem tokens_plain {s : Text} (noTags : ∀ before after, s = before ++ '[' :: after → tag? after = none)
    (pending : Nat) : tokens pending s = List.replicate pending (.plain '\\') ++ s.map .plain := by
  induction pending, s using tokens_induction with
  | nil pending => rw [tokens_nil, List.map_nil, List.append_nil]
  | backslash pending rest ih =>
    rw [tokens_backslash, ih fun before after cut => noTags ('\\' :: before) after (by rw [cut]; rfl)]
    rw [List.replicate_succ', List.append_assoc]
    rfl
  | tag pending inside after isTag ih =>
    have found : tag? (inside ++ ']' :: after) = some (inside, after) := tag?_eq_some_iff.2 ⟨isTag, rfl⟩
    have noTag := noTags [] (inside ++ ']' :: after) (by simp [bracketed])
    cases noTag.symm.trans found
  | bracket pending rest noTag ih =>
    rw [tokens_bracket noTag, ih fun before after cut => noTags ('[' :: before) after (by rw [cut]; rfl)]
    rfl
  | other pending c rest notBackslash notBracket ih =>
    rw [tokens_other notBackslash notBracket,
      ih fun before after cut => noTags (c :: before) after (by rw [cut]; rfl)]
    rfl

/-- Whether a character means nothing to markup. -/
def isUnmarked (c : Char) : Bool :=
  c ≠ '\\' && c ≠ '['

/-- Text without backslashes and brackets at the front does not change how the rest is read. -/
theorem tokens_unmarked_append {s : Text} (unmarked : s.all isUnmarked = true) (rest : Text) :
    tokens 0 (s ++ rest) = s.map .plain ++ tokens 0 rest := by
  induction s with
  | nil => rfl
  | cons c s ih =>
    simp only [List.all_cons, isUnmarked, Bool.and_eq_true, decide_eq_true_eq] at unmarked
    obtain ⟨⟨notBackslash, notBracket⟩, later⟩ := unmarked
    rw [List.cons_append, tokens_other notBackslash notBracket, ih later]
    rfl

/-! ## Escaping -/

/-- What escaping makes of a text behind some backslashes, but for a backslash at its end. -/
def escaped (pending : Nat) (s : Text) : Text :=
  (tokens pending s).flatMap Token.escape

theorem flatMap_escape_backslashes (count : Nat) :
    (List.replicate count (Token.plain '\\')).flatMap Token.escape = List.replicate count '\\' := by
  rw [List.flatMap_replicate]
  simp [Token.escape]

theorem escaped_nil (pending : Nat) : escaped pending [] = List.replicate pending '\\' := by
  rw [escaped, tokens_nil, flatMap_escape_backslashes]

theorem escaped_backslash (pending : Nat) (rest : Text) :
    escaped pending ('\\' :: rest) = escaped (pending + 1) rest := by
  rw [escaped, tokens_backslash, escaped]

theorem escaped_tag {inside : Text} (isTag : IsTag inside) (pending : Nat) (after : Text) :
    escaped pending (bracketed inside ++ after) =
      List.replicate (2 * pending + 1) '\\' ++ (bracketed inside ++ escaped 0 after) := by
  rw [escaped, tokens_tag isTag, List.flatMap_cons, Token.escape, List.append_assoc, escaped]

theorem escaped_bracket {rest : Text} (noTag : tag? rest = none) (pending : Nat) :
    escaped pending ('[' :: rest) = List.replicate pending '\\' ++ '[' :: escaped 0 rest := by
  rw [escaped, tokens_bracket noTag, List.flatMap_append, flatMap_escape_backslashes]
  rfl

theorem escaped_other {c : Char} (notBackslash : c ≠ '\\') (notBracket : c ≠ '[') (pending : Nat)
    (rest : Text) :
    escaped pending (c :: rest) = List.replicate pending '\\' ++ c :: escaped 0 rest := by
  rw [escaped, tokens_other notBackslash notBracket, List.flatMap_append, flatMap_escape_backslashes]
  rfl

theorem untilClosing?_backslashes_append {s : Text} (unclosed : untilClosing? s = none) (count : Nat) :
    untilClosing? (List.replicate count '\\' ++ s) = none := by
  induction count with
  | zero => exact unclosed
  | succ count ih =>
    rw [List.replicate_succ, List.cons_append, untilClosing?, ih]
    rfl

theorem untilClosing?_cons_eq_none {c : Char} {rest : Text} (notBracket : c ≠ '[') :
    untilClosing? (c :: rest) = none ↔ c ≠ ']' ∧ untilClosing? rest = none := by
  rw [untilClosing?]
  by_cases closing : c = ']' <;> simp [closing, notBracket]

/-- Escaping does not add closing brackets. -/
theorem untilClosing?_escaped {s : Text} (unclosed : untilClosing? s = none) (pending : Nat) :
    untilClosing? (escaped pending s) = none := by
  induction pending, s using tokens_induction with
  | nil pending =>
    rw [escaped_nil, ← List.append_nil (List.replicate pending _)]
    exact untilClosing?_backslashes_append rfl pending
  | backslash pending rest ih =>
    rw [escaped_backslash]
    exact ih ((untilClosing?_cons_eq_none (by decide)).1 unclosed).2
  | tag pending inside after isTag ih =>
    rw [escaped_tag isTag]
    exact untilClosing?_backslashes_append rfl _
  | bracket pending rest noTag ih =>
    rw [escaped_bracket noTag]
    exact untilClosing?_backslashes_append rfl _
  | other pending c rest notBackslash notBracket ih =>
    obtain ⟨notClosing, restUnclosed⟩ := (untilClosing?_cons_eq_none notBracket).1 unclosed
    rw [escaped_other notBackslash notBracket]
    refine untilClosing?_backslashes_append ?_ pending
    exact (untilClosing?_cons_eq_none notBracket).2 ⟨notClosing, ih restUnclosed⟩

/-- Escaped text starts like a tag only if the text itself does. -/
theorem startsTag_of_escaped {pending : Nat} {s : Text}
    (starts : (escaped pending s).head?.any isTagStart = true) :
    pending = 0 ∧ s.head?.any isTagStart = true := by
  have behindBackslashes : ∀ (count : Nat) (rest : Text),
      (List.replicate count '\\' ++ rest).head?.any isTagStart = true →
        count = 0 ∧ rest.head?.any isTagStart = true := by
    intro count rest found
    cases count with
    | zero => exact ⟨rfl, found⟩
    | succ count => cases found
  induction pending, s using tokens_induction with
  | nil pending =>
    rw [escaped_nil, ← List.append_nil (List.replicate pending _)] at starts
    cases (behindBackslashes _ _ starts).2
  | backslash pending rest ih =>
    rw [escaped_backslash] at starts
    cases (ih starts).1
  | tag pending inside after isTag ih =>
    rw [escaped_tag isTag] at starts
    cases (behindBackslashes _ _ starts).1
  | bracket pending rest noTag ih =>
    rw [escaped_bracket noTag] at starts
    cases (behindBackslashes _ _ starts).2
  | other pending c rest notBackslash notBracket ih =>
    rw [escaped_other notBackslash notBracket] at starts
    exact behindBackslashes _ (c :: escaped 0 rest) starts

theorem tag?_escaped {s : Text} (noTag : tag? s = none) : tag? (escaped 0 s) = none := by
  rw [tag?_eq] at noTag ⊢
  split
  next starts =>
    rw [if_pos (startsTag_of_escaped starts).2] at noTag
    exact untilClosing?_escaped noTag 0
  next => rfl

/-- The token that shows a token. -/
def Token.literal : Token → Token
  | .plain c => .plain c
  | .tag backslashes inside => .tag (2 * backslashes + 1) inside

/-- Behind escaped text the reader has passed the tokens of the text itself, every tag being literal, and some
backslashes that may belong to a tag behind them. -/
theorem tokens_escaped (pending : Nat) (s : Text) :
    ∃ leading count, (tokens pending s).map Token.literal =
        leading ++ List.replicate count (.plain '\\') ∧
      ∀ suffix, untilClosing? suffix = none →
        tokens 0 (escaped pending s ++ suffix) = leading ++ tokens count suffix := by
  induction pending, s using tokens_induction with
  | nil pending =>
    refine ⟨[], pending, ?_, fun suffix _ => ?_⟩
    · rw [tokens_nil, List.map_replicate]
      rfl
    · rw [escaped_nil, tokens_backslashes, Nat.zero_add]
      rfl
  | backslash pending rest ih => rwa [tokens_backslash, escaped_backslash]
  | tag pending inside after isTag ih =>
    obtain ⟨leading, count, passed, behind⟩ := ih
    refine ⟨.tag (2 * pending + 1) inside :: leading, count, ?_, fun suffix unclosed => ?_⟩
    · rw [tokens_tag isTag, List.map_cons, passed]
      rfl
    · rw [escaped_tag isTag, List.append_assoc, List.append_assoc, tokens_backslashes, tokens_tag isTag,
        behind suffix unclosed, Nat.zero_add]
      rfl
  | bracket pending rest noTag ih =>
    obtain ⟨leading, count, passed, behind⟩ := ih
    refine ⟨List.replicate pending (.plain '\\') ++ .plain '[' :: leading, count, ?_,
      fun suffix unclosed => ?_⟩
    · rw [tokens_bracket noTag, List.map_append, List.map_cons, passed, List.map_replicate]
      simp [Token.literal]
    · rw [escaped_bracket noTag, List.append_assoc, tokens_backslashes, List.cons_append,
        tokens_bracket (tag?_append (tag?_escaped noTag) unclosed), behind suffix unclosed, Nat.zero_add]
      simp
  | other pending c rest notBackslash notBracket ih =>
    obtain ⟨leading, count, passed, behind⟩ := ih
    refine ⟨List.replicate pending (.plain '\\') ++ .plain c :: leading, count, ?_,
      fun suffix unclosed => ?_⟩
    · rw [tokens_other notBackslash notBracket, List.map_append, List.map_cons, passed, List.map_replicate]
      simp [Token.literal]
    · rw [escaped_other notBackslash notBracket, List.append_assoc, tokens_backslashes, List.cons_append,
        tokens_other notBackslash notBracket, behind suffix unclosed, Nat.zero_add]
      simp

/-! ## Tags that count -/

/-- The inside of a tag that an even number of backslashes leaves a tag. -/
def Token.tag? : Token → Option Text
  | .plain _ => none
  | .tag backslashes inside => if backslashes % 2 = 1 then none else some inside

/-- The tags among tokens that are not shown as text. -/
def liveTags (tokens : List Token) : List Text :=
  tokens.filterMap Token.tag?

theorem liveTags_append (first second : List Token) :
    liveTags (first ++ second) = liveTags first ++ liveTags second :=
  List.filterMap_append

theorem liveTags_tag (backslashes : Nat) (inside : Text) (rest : List Token) :
    liveTags (.tag backslashes inside :: rest) =
      if backslashes % 2 = 1 then liveTags rest else inside :: liveTags rest := by
  rw [liveTags, List.filterMap_cons, Token.tag?]
  by_cases odd : backslashes % 2 = 1
  · rw [if_pos odd, if_pos odd, liveTags]
  · rw [if_neg odd, if_neg odd, liveTags]

theorem liveTags_map_plain (s : Text) : liveTags (s.map .plain) = [] := by
  rw [liveTags, List.filterMap_eq_nil_iff]
  simp [Token.tag?]

theorem liveTags_map_literal (tokens : List Token) : liveTags (tokens.map Token.literal) = [] := by
  rw [liveTags, List.filterMap_eq_nil_iff]
  intro token member
  obtain ⟨original, -, rfl⟩ := List.mem_map.1 member
  cases original with
  | plain c => rfl
  | tag backslashes inside => simp [Token.literal, Token.tag?]

/-- An escaped text has no tags of its own.  The tags behind it count as if only some backslashes stood before them. -/
theorem liveTags_escape (s : Text) :
    ∃ count, ∀ suffix, untilClosing? suffix = none →
      liveTags (tokens 0 (escape s ++ suffix)) = liveTags (tokens count suffix) := by
  obtain ⟨leading, count, passed, behind⟩ := tokens_escaped 0 s
  have noTags : liveTags leading = [] := by
    have none : liveTags (leading ++ List.replicate count (.plain '\\')) = [] :=
      passed ▸ liveTags_map_literal _
    rw [liveTags_append] at none
    exact (List.append_eq_nil_iff.1 none).1
  have escapedTags : ∀ suffix, untilClosing? suffix = none →
      liveTags (tokens 0 (escaped 0 s ++ suffix)) = liveTags (tokens count suffix) := by
    intro suffix unclosed
    rw [behind suffix unclosed, liveTags_append, noTags, List.nil_append]
  by_cases lone : endsInLoneBackslash (escaped 0 s) = true
  · have spelled : escape s = escaped 0 s ++ ['\\'] := if_pos lone
    refine ⟨count + 1, fun suffix unclosed => ?_⟩
    rw [spelled, List.append_assoc, List.singleton_append,
      escapedTags _ ((untilClosing?_cons_eq_none (by decide)).2 ⟨by decide, unclosed⟩), tokens_backslash]
  · have spelled : escape s = escaped 0 s := if_neg lone
    exact ⟨count, fun suffix unclosed => spelled ▸ escapedTags suffix unclosed⟩

end SearchQuery.Markup
