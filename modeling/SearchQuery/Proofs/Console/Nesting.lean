import SearchQuery.Proofs.Console.Escape
import SearchQuery.Proofs.Console.Layout
import SearchQuery.Proofs.Text.Trim
import SearchQuery.Query.Tree

/-!
# Markup that can be shown

Tags that are opened and closed one inside the other never make rendering fail, and a tag may stay open.  So text that
is put together from tags of known styles, plain text and escaped text can always be shown, whatever was escaped.
-/

set_option autoImplicit false

namespace SearchQuery.Markup

/-! ## Names of styles -/

def isStyleChar (c : Char) : Bool :=
  ('a' ≤ c && c ≤ 'z') || c = '.'

/-- A name by which tags open and close a style: letters and dots, and its own normal form. -/
structure IsStyle (style : Text) : Prop where
  starts : style.head?.any (fun c => 'a' ≤ c && c ≤ 'z') = true
  letters : style.all isStyleChar = true
  normal : matchName style = .ok style

/-- The styles of the program's own tags. -/
def ownStyles : List Text :=
  ["error".toList, "info".toList, "warning".toList, "query.field".toList, "query.value".toList,
    "query.bool".toList, "query.negated".toList, "selectors".toList]

theorem isStyle_of_mem (style : Text) (own : style ∈ ownStyles) : IsStyle style := by
  have checked : ∀ style ∈ ownStyles, style.head?.any (fun c => 'a' ≤ c && c ≤ 'z') = true ∧
      style.all isStyleChar = true ∧ matchName style = .ok style := by
    decide +kernel
  obtain ⟨starts, letters, normal⟩ := checked style own
  exact ⟨starts, letters, normal⟩

namespace IsStyle

variable {style : Text}

theorem ne_of_mem (isStyle : IsStyle style) {c d : Char} (member : c ∈ style)
    (foreign : isStyleChar d = false) : c ≠ d := by
  rintro rfl
  cases foreign.symm.trans (List.all_eq_true.1 isStyle.letters c member)

theorem isTag (isStyle : IsStyle style) : IsTag style := by
  refine ⟨?_, fun c member => ⟨isStyle.ne_of_mem member (by decide), isStyle.ne_of_mem member (by decide)⟩⟩
  obtain ⟨c, head, starts⟩ := (Option.any_eq_true _ _).1 isStyle.starts
  rw [head, Option.any_some, isTagStart, starts]
  rfl

theorem isTag_closing (isStyle : IsStyle style) : IsTag ('/' :: style) :=
  ⟨rfl, List.forall_mem_cons.2 ⟨⟨by decide, by decide⟩, isStyle.isTag.unbracketed⟩⟩

theorem exists_cons (isStyle : IsStyle style) : ∃ c rest, style = c :: rest ∧ c ≠ '/' ∧ c ≠ '@' := by
  cases style with
  | nil => cases isStyle.starts
  | cons c rest =>
    exact ⟨c, rest, rfl, isStyle.ne_of_mem List.mem_cons_self (by decide),
      isStyle.ne_of_mem List.mem_cons_self (by decide)⟩

theorem solid (isStyle : IsStyle style) {c : Char} (member : c ∈ style) : Text.isBlank c = false := by
  have code : 0x2E ≤ c.toNat ∧ c.toNat ≤ 0x7A := by
    have letter := List.all_eq_true.1 isStyle.letters c member
    simp only [isStyleChar, Bool.or_eq_true, Bool.and_eq_true, decide_eq_true_eq] at letter
    rcases letter with ⟨low, high⟩ | rfl
    · exact ⟨Nat.le_trans (by decide) (UInt32.le_iff_toNat_le.1 low), UInt32.le_iff_toNat_le.1 high⟩
    · decide
  simp only [Text.isBlank, Bool.or_eq_false_iff, Bool.and_eq_false_iff, decide_eq_false_iff_not,
    beq_eq_false_iff_ne]
  omega

theorem trim_eq_self (isStyle : IsStyle style) : Text.trim style = style := by
  refine Text.Trimmed.trim_eq_self ⟨fun c isHead => ?_, fun c isLast => ?_⟩
  · exact isStyle.solid (List.mem_of_mem_head? isHead)
  · exact isStyle.solid (List.mem_of_getLast? isLast)

theorem allBlank_eq_false (isStyle : IsStyle style) : Text.allBlank style = false := by
  obtain ⟨c, rest, rfl, -⟩ := isStyle.exists_cons
  rw [Text.allBlank, List.all_cons, isStyle.solid List.mem_cons_self, Bool.false_and]

theorem isReadable (isStyle : IsStyle style) : Console.Style.isReadable style = true := by
  have normal := isStyle.normal
  rw [matchName, Console.Style.normalize] at normal
  rw [Console.Style.isReadable]
  split
  next unreadable =>
    rw [unreadable] at normal
    cases normal
  next => rfl

theorem splitTag_eq (isStyle : IsStyle style) : splitTag style = (style, none) := by
  have noParameters : style.dropWhile (· ≠ '=') = [] := by
    refine List.dropWhile_eq_nil_iff.2 fun c member => ?_
    exact decide_eq_true (isStyle.ne_of_mem member (by decide))
  rw [splitTag, noParameters]

theorem splitTag_closing (isStyle : IsStyle style) : splitTag ('/' :: style) = ('/' :: style, none) := by
  have noParameters : ('/' :: style).dropWhile (· ≠ '=') = [] := by
    refine List.dropWhile_eq_nil_iff.2 (List.forall_mem_cons.2 ⟨by decide, fun c member => ?_⟩)
    exact decide_eq_true (isStyle.ne_of_mem member (by decide))
  rw [splitTag, noParameters]

end IsStyle

/-! ## Opening and closing -/

theorem nest_opening {style : Text} (isStyle : IsStyle style) (opened : List OpenTag) (position : Nat) :
    nest opened position style = .ok (⟨style, none, position⟩ :: opened, []) := by
  obtain ⟨c, rest, spelled, notSlash, -⟩ := isStyle.exists_cons
  rw [nest, isStyle.splitTag_eq]
  dsimp only
  split
  next _ name => exact absurd (List.cons.inj spelled).1.symm notSlash
  next => rw [isStyle.normal]; rfl

theorem nest_closing {style : Text} (isStyle : IsStyle style) (others : List OpenTag)
    (start position : Nat) :
    nest (⟨style, none, start⟩ :: others) position ('/' :: style) =
      .ok (others, [⟨start, position, some style⟩]) := by
  have closed : OpenTag.close ⟨style, none, start⟩ position = .ok ⟨start, position, some style⟩ := by
    obtain ⟨c, rest, spelled, -, notAction⟩ := isStyle.exists_cons
    have noAction : OpenTag.isAction ⟨style, none, start⟩ = false := by
      rw [OpenTag.isAction, spelled, List.head?_cons]
      exact decide_eq_false fun same => notAction (Option.some.inj same)
    rw [OpenTag.close, noAction]
    rfl
  have found : takeOpen? (some style) (⟨style, none, start⟩ :: others) =
      some (⟨style, none, start⟩, others) := by
    rw [takeOpen?, if_pos (by simp)]
  rw [nest, isStyle.splitTag_closing]
  simp only [isStyle.allBlank_eq_false, isStyle.trim_eq_self, isStyle.normal, if_false, Bool.false_eq_true,
    Functor.map, Except.map, bind, Except.bind, found, closed, pure, Except.pure]

/-- Tags that are opened and closed one inside the other, with some styles open before them. -/
inductive Nested : List Text → List Text → Prop
  | nil (opened : List Text) : Nested opened []
  | opening {style : Text} {opened rest : List Text} (isStyle : IsStyle style)
      (nested : Nested (style :: opened) rest) : Nested opened (style :: rest)
  | closing {style : Text} {opened rest : List Text} (nested : Nested opened rest) :
      Nested (style :: opened) (('/' :: style) :: rest)

/-- A tag that opened a style. -/
def OpenTag.IsStyled (tag : OpenTag) : Prop :=
  tag.parameters = none ∧ IsStyle tag.name

theorem isReadable_of_isStyled {opened : List OpenTag} (styled : ∀ tag ∈ opened, tag.IsStyled)
    (position : Nat) : Console.IsReadable (opened.map (·.span position)) := by
  intro span member
  obtain ⟨⟨name, parameters, start⟩, isOpen, rfl⟩ := List.mem_map.1 member
  obtain ⟨rfl, isStyle⟩ := styled _ isOpen
  exact isStyle.isReadable

/-- A tag of a nested list can be opened or closed, and the rest of the list is nested behind it. -/
theorem exists_nest {opened : List OpenTag} (styled : ∀ tag ∈ opened, tag.IsStyled) {inside : Text}
    {rest : List Text} (nested : Nested (opened.map OpenTag.name) (inside :: rest)) (position : Nat) :
    ∃ stillOpen ended, nest opened position inside = .ok (stillOpen, ended) ∧
      (∀ tag ∈ stillOpen, tag.IsStyled) ∧ Console.IsReadable ended ∧
      Nested (stillOpen.map OpenTag.name) rest := by
  generalize names : opened.map OpenTag.name = openNames at nested
  cases nested with
  | opening isStyle inner =>
    refine ⟨⟨inside, none, position⟩ :: opened, [], nest_opening isStyle opened position,
      List.forall_mem_cons.2 ⟨⟨rfl, isStyle⟩, styled⟩, List.forall_mem_nil _, ?_⟩
    rwa [List.map_cons, names]
  | closing outer =>
    obtain ⟨⟨name, parameters, start⟩, others, rfl, rfl, rfl⟩ := List.map_eq_cons_iff.1 names
    obtain ⟨⟨rfl, isStyle⟩, othersStyled⟩ := List.forall_mem_cons.1 styled
    refine ⟨others, [⟨start, position, some name⟩], nest_closing isStyle others start position,
      othersStyled, ?_, outer⟩
    exact List.forall_mem_singleton.2 isStyle.isReadable

theorem spans_tag {opened stillOpen : List OpenTag} {position : Nat} {inside : Text} {ended : List Span}
    (step : nest opened position inside = .ok (stillOpen, ended)) {rest : List Piece} {found : List Span}
    (later : spans stillOpen position rest = .ok found) :
    spans opened position (.tag inside :: rest) = .ok (ended ++ found) := by
  rw [spans, step]
  change (spans stillOpen position rest).bind _ = _
  rw [later]
  rfl

/-- Nested tags have spans, and the styles of these can be looked up. -/
theorem exists_spans {tokens : List Token} {opened : List OpenTag} (styled : ∀ tag ∈ opened, tag.IsStyled)
    (nested : Nested (opened.map OpenTag.name) (liveTags tokens)) (stretch : Text) (position : Nat) :
    ∃ found, spans opened position (pieces stretch tokens) = .ok found ∧ Console.IsReadable found := by
  induction tokens generalizing opened stretch position with
  | nil => exact ⟨_, rfl, isReadable_of_isStyled styled _⟩
  | cons token rest ih =>
    cases token with
    | plain c => exact ih styled nested (c :: stretch) position
    | tag backslashes inside =>
      rw [liveTags_tag] at nested
      by_cases odd : backslashes % 2 = 1
      · rw [if_pos odd] at nested
        rw [pieces, if_pos odd, spans]
        exact ih styled nested [] _
      · rw [if_neg odd] at nested
        rw [pieces, if_neg odd, spans]
        obtain ⟨stillOpen, ended, step, stillStyled, endedReadable, inner⟩ := exists_nest styled nested _
        obtain ⟨found, later, readable⟩ := ih stillStyled inner [] _
        exact ⟨ended ++ found, spans_tag step later, List.forall_mem_append.2 ⟨endedReadable, readable⟩⟩

/-! ## Plain text -/

/-- Text that markup leaves as it is: no bracket in it opens a tag or stands behind a backslash. -/
structure IsPlain (s : Text) : Prop where
  noTags : ∀ before after, s = before ++ '[' :: after → tag? after = none
  noEscapes : ∀ before after, s ≠ before ++ '\\' :: '[' :: after

theorem IsPlain.of_noBracket {s : Text} (noBracket : '[' ∉ s) : IsPlain s := by
  constructor
  · intro before after cut
    exact absurd (cut ▸ List.mem_append_right before List.mem_cons_self) noBracket
  · rintro before after rfl
    exact noBracket (List.mem_append_right before (List.mem_cons_of_mem _ List.mem_cons_self))

theorem IsPlain.cons {s : Text} (plain : IsPlain s) {c : Char} (notBackslash : c ≠ '\\')
    (notBracket : c ≠ '[') : IsPlain (c :: s) := by
  constructor
  · intro before after cut
    cases before with
    | nil => exact absurd (List.cons.inj cut).1 notBracket
    | cons d before => exact plain.noTags before after (List.cons.inj cut).2
  · intro before after cut
    cases before with
    | nil => exact notBackslash (List.cons.inj cut).1
    | cons d before => exact plain.noEscapes before after (List.cons.inj cut).2

/-! ## Safe markup -/

/-- Markup that can be shown whichever styles are open before it. -/
def Safe (markup : Text) : Prop :=
  ∀ opened, Nested opened (liveTags (tokens 0 markup))

namespace Safe

variable {markup style s : Text}

theorem exists_present (safe : Safe markup) (columns : Nat) :
    ∃ lines, Console.present columns markup = .ok lines := by
  obtain ⟨found, success, readable⟩ := exists_spans (List.forall_mem_nil _) (safe []) [] 0
  let rendering : Rendering := ⟨(pieces [] (tokens 0 markup)).flatMap Piece.text, found⟩
  obtain ⟨lines, shown⟩ : ∃ lines, Console.display columns rendering = .ok lines :=
    Console.exists_display readable columns
  refine ⟨lines, ?_⟩
  rw [Console.present, render, success]
  exact shown

theorem of_isPlain (plain : IsPlain s) : Safe s := by
  intro opened
  rw [tokens_plain plain.noTags, List.replicate_zero, List.nil_append, liveTags_map_plain]
  exact .nil opened

theorem of_noBracket (noBracket : '[' ∉ s) : Safe s :=
  of_isPlain (.of_noBracket noBracket)

theorem nil : Safe [] :=
  of_noBracket List.not_mem_nil

theorem escape (s : Text) : Safe (escape s) := by
  intro opened
  obtain ⟨count, behind⟩ := liveTags_escape s
  have noTags := behind [] rfl
  rw [List.append_nil, tokens_nil, ← List.map_replicate, liveTags_map_plain] at noTags
  rw [noTags]
  exact .nil opened

theorem unmarked_append (safe : Safe markup) (unmarked : s.all isUnmarked = true) : Safe (s ++ markup) := by
  intro opened
  rw [tokens_unmarked_append unmarked, liveTags_append, liveTags_map_plain, List.nil_append]
  exact safe opened

theorem opening (safe : Safe markup) (isStyle : IsStyle style) : Safe (bracketed style ++ markup) := by
  intro opened
  rw [tokens_tag isStyle.isTag, liveTags_tag, if_neg (by decide)]
  exact .opening isStyle (safe _)

end Safe

theorem styled_eq (style s : Text) : styled style s = bracketed style ++ (s ++ bracketed ('/' :: style)) := by
  simp [styled, bracketed]

/-- Plain text and escaped text in a style are safe: if the escaped text ends in backslashes that make the closing tag
plain, the style stays open. -/
theorem Safe.styled {markup style lead : Text} (safe : Safe markup) (isStyle : IsStyle style)
    (unmarked : lead.all isUnmarked = true) (s : Text) :
    Safe (styled style (lead ++ Markup.escape s) ++ markup) := by
  intro opened
  obtain ⟨count, behind⟩ := liveTags_escape s
  have spelled : SearchQuery.styled style (lead ++ Markup.escape s) ++ markup = bracketed style ++ (lead ++
      (Markup.escape s ++ (bracketed ('/' :: style) ++ markup))) := by
    rw [styled_eq]
    simp only [List.append_assoc]
  rw [spelled, tokens_tag isStyle.isTag, tokens_unmarked_append unmarked, liveTags_tag, if_neg (by decide),
    liveTags_append, liveTags_map_plain, List.nil_append, behind _ rfl, tokens_tag isStyle.isTag_closing,
    liveTags_tag]
  refine .opening isStyle ?_
  split
  next => exact safe (style :: opened)
  next => exact .closing (safe opened)

theorem Safe.styled_unmarked {markup style lead : Text} (safe : Safe markup) (isStyle : IsStyle style)
    (unmarked : lead.all isUnmarked = true) : Safe (SearchQuery.styled style lead ++ markup) := by
  have escapeNil : Markup.escape [] = [] := by
    rw [Markup.escape, tokens_nil]
    rfl
  have safeStyled := safe.styled isStyle unmarked []
  rwa [escapeNil, List.append_nil] at safeStyled

/-! ## Rendering plain text -/

theorem showPlain_eq_self {s : Text} (noEscapes : ∀ before after, s ≠ before ++ '\\' :: '[' :: after) :
    showPlain s = s := by
  fun_induction showPlain s with
  | case1 | case2 => rfl
  | case3 rest ih => exact absurd rfl (noEscapes [] rest)
  | case4 c rest notBracket ih =>
    rw [ih fun before after cut => noEscapes ('\\' :: before) after (by rw [cut]; rfl)]
  | case5 c rest _ _ ih =>
    rw [ih fun before after cut => noEscapes (c :: before) after (by rw [cut]; rfl)]

end SearchQuery.Markup

namespace SearchQuery.Console

open SearchQuery.Markup

/-- What a console can print in one line as it is. -/
structure FitsLine (s : Text) : Prop where
  short : 2 * s.length ≤ allColumns
  stationary : s.all isStationary = true

end SearchQuery.Console
