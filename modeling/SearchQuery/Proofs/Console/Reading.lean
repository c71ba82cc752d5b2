import SearchQuery.Proofs.Console.Nesting

/-!
# Reading marked-up text

By the rule for tags a run of backslashes before a tag stands for half as many, and an odd one makes the tag plain text.
Escaped text reads as the text itself, without any tag, and what stands behind it reads as it would alone: so markup
that is put together from tags and escaped text reads as the texts one after another, each tag spanning what was put
between it and its closing one.  Rendering shows what is read, but for a backslash right before an opening bracket.
-/

set_option autoImplicit false

namespace SearchQuery.Markup

/-! ## Tokens as they are written -/

/-- The token as it is written. -/
def Token.raw : Token → Text
  | .plain c => [c]
  | .tag backslashes inside => List.replicate backslashes '\\' ++ bracketed inside

theorem flatMap_raw_backslashes (count : Nat) :
    (List.replicate count (Token.plain '\\')).flatMap Token.raw = List.replicate count '\\' := by
  rw [List.flatMap_replicate]
  simp [Token.raw]

/-- Tokens are the text, no character of which is lost. -/
theorem flatMap_raw_tokens (pending : Nat) (s : Text) :
    (tokens pending s).flatMap Token.raw = List.replicate pending '\\' ++ s := by
  induction pending, s using tokens_induction with
  | nil pending => rw [tokens_nil, flatMap_raw_backslashes, List.append_nil]
  | backslash pending rest ih =>
    rw [tokens_backslash, ih, List.replicate_succ', List.append_assoc, List.singleton_append]
  | tag pending inside after isTag ih =>
    rw [tokens_tag isTag, List.flatMap_cons, ih, Token.raw, List.append_assoc]
    rfl
  | bracket pending rest noTag ih =>
    rw [tokens_bracket noTag, List.flatMap_append, List.flatMap_cons, flatMap_raw_backslashes, ih]
    rfl
  | other pending c rest notBackslash notBracket ih =>
    rw [tokens_other notBackslash notBracket, List.flatMap_append, List.flatMap_cons, flatMap_raw_backslashes, ih]
    rfl

theorem Token.getLast?_escape (token : Token) : token.escape.getLast? = token.raw.getLast? := by
  cases token with
  | plain c => rfl
  | tag backslashes inside =>
    have nonempty : bracketed inside ≠ [] := List.cons_ne_nil _ _
    rw [Token.escape, Token.raw, List.getLast?_append_of_ne_nil _ nonempty, List.getLast?_append_of_ne_nil _ nonempty]

/-- Escaping keeps the last character. -/
theorem getLast?_escaped (s : Text) : (escaped 0 s).getLast? = s.getLast? := by
  have sameLast : ∀ tokens : List Token,
      (tokens.flatMap Token.escape).getLast? = (tokens.flatMap Token.raw).getLast? := by
    intro tokens
    induction tokens with
    | nil => rfl
    | cons token rest ih =>
      rw [List.flatMap_cons, List.flatMap_cons, List.getLast?_append, List.getLast?_append, ih, token.getLast?_escape]
  rw [escaped, sameLast, flatMap_raw_tokens, List.replicate_zero, List.nil_append]

/-- Behind escaped text that does not end in a backslash, the tokens of the text itself have passed, every tag being
literal. -/
theorem tokens_escape_append {s : Text} (noBackslash : s.getLast? ≠ some '\\') {suffix : Text}
    (unclosed : untilClosing? suffix = none) :
    tokens 0 (escape s ++ suffix) = (tokens 0 s).map Token.literal ++ tokens 0 suffix := by
  have whole : escape s = escaped 0 s := by
    have noLone : ¬endsInLoneBackslash (escaped 0 s) = true := by
      intro lone
      rw [endsInLoneBackslash] at lone
      split at lone
      next => cases lone
      next spelled =>
        have isLast := getLast?_escaped s
        rw [List.getLast?_eq_head?_reverse, spelled] at isLast
        exact noBackslash isLast.symm
      next => cases lone
    exact if_neg noLone
  obtain ⟨leading, count, passed, behind⟩ := tokens_escaped 0 s
  have noneLeft : count = 0 := by
    cases count with
    | zero => rfl
    | succ count =>
      -- a backslash would be the last token, and so the last character
      have lastToken : (tokens 0 s).getLast? = some (.plain '\\') := by
        have mapped := congrArg List.getLast? passed
        rw [List.replicate_succ', ← List.append_assoc, List.getLast?_concat, List.getLast?_map,
          Option.map_eq_some_iff] at mapped
        obtain ⟨token, isLast, isPlain⟩ := mapped
        cases token with
        | plain c =>
          cases isPlain
          exact isLast
        | tag backslashes inside => cases isPlain
      obtain ⟨front, spelled⟩ := List.getLast?_eq_some_iff.1 lastToken
      have text := flatMap_raw_tokens 0 s
      rw [spelled, List.flatMap_append] at text
      refine absurd ?_ noBackslash
      rw [List.replicate_zero, List.nil_append] at text
      rw [← text, List.flatMap_singleton, Token.raw, List.getLast?_concat]
  rw [noneLeft, List.replicate_zero, List.append_nil] at passed
  rw [whole, behind suffix unclosed, noneLeft, passed]

/-! ## The rule for tags -/

/-- What the rule for tags makes of a token. -/
def Token.read : Token → List Piece
  | .plain c => [.shown [c]]
  | .tag backslashes inside =>
    if backslashes % 2 = 1 then [.shown (List.replicate (backslashes / 2) '\\' ++ bracketed inside)]
    else [.shown (List.replicate (backslashes / 2) '\\'), .tag inside]

/-- Marked-up text by the rule for tags. -/
def reading (markup : Text) : List Piece :=
  (tokens 0 markup).flatMap Token.read

/-- The inside of a piece that is a tag. -/
def Piece.tag? : Piece → Option Text
  | .shown _ => none
  | .tag inside => some inside

theorem Token.read_literal (token : Token) : token.literal.read = [.shown token.raw] := by
  cases token with
  | plain c => rfl
  | tag backslashes inside =>
    have odd : (2 * backslashes + 1) % 2 = 1 := by omega
    have half : (2 * backslashes + 1) / 2 = backslashes := by omega
    rw [Token.literal, Token.read, if_pos odd, half, Token.raw]

/-- Before the suffix, marked-up text is shown as a text, without any tag, and the suffix reads as it would alone. -/
def ShownBefore (suffix markup s : Text) : Prop :=
  ∃ parts : List Text, parts.flatten = s ∧ reading (markup ++ suffix) = parts.map .shown ++ reading suffix

theorem ShownBefore.unmarked {s : Text} (unmarked : s.all isUnmarked = true) (suffix : Text) :
    ShownBefore suffix s s := by
  refine ⟨s.map ([·]), by rw [← List.flatMap_def, List.flatMap_singleton'], ?_⟩
  rw [reading, tokens_unmarked_append unmarked, List.flatMap_append, List.flatMap_map, List.map_map, reading,
    List.map_eq_flatMap]
  rfl

theorem ShownBefore.escape {s suffix : Text} (noBackslash : s.getLast? ≠ some '\\')
    (unclosed : untilClosing? suffix = none) : ShownBefore suffix (escape s) s := by
  refine ⟨(tokens 0 s).map Token.raw, ?_, ?_⟩
  · rw [← List.flatMap_def, flatMap_raw_tokens]
    rfl
  · rw [reading, tokens_escape_append noBackslash unclosed, List.flatMap_append, List.flatMap_map, List.map_map,
      reading, List.map_eq_flatMap]
    congr 2
    funext token
    exact token.read_literal

theorem reading_tag {inside : Text} (isTag : IsTag inside) (rest : Text) :
    reading (bracketed inside ++ rest) = .shown [] :: .tag inside :: reading rest := by
  rw [reading, tokens_tag isTag]
  rfl

theorem spans_shown (opened : List OpenTag) (position : Nat) (parts : List Text) (rest : List Piece) :
    spans opened position (parts.map .shown ++ rest) = spans opened (position + parts.flatten.length) rest := by
  induction parts generalizing position with
  | nil => rfl
  | cons part parts ih =>
    rw [List.map_cons, List.cons_append, spans, ih, List.flatten_cons, List.length_append, Nat.add_assoc]

theorem flatMap_text_shown (parts : List Text) : (parts.map Piece.shown).flatMap Piece.text = parts.flatten := by
  rw [List.flatMap_map, List.flatMap_def]
  simp [Piece.text]

theorem filterMap_tag?_shown (parts : List Text) : (parts.map Piece.shown).filterMap Piece.tag? = [] := by
  rw [List.filterMap_map, List.filterMap_eq_nil_iff]
  simp [Piece.tag?]

/-! ## Markup that is put together -/

/-- Marked-up text reads as a text with some tags, which open and close the given spans of it.  The spans depend on
where the text begins. -/
structure ReadsAs (markup text : Text) (tags : List Text) (found : Nat → List Span) : Prop where
  text : (reading markup).flatMap Piece.text = text
  tags : (reading markup).filterMap Piece.tag? = tags
  spans : ∀ position, spans [] position (reading markup) = .ok (found position)

namespace ReadsAs

variable {markup body s text : Text} {tags : List Text} {found : Nat → List Span}

theorem nil : ReadsAs [] [] [] fun _ => [] := by
  have empty : reading [] = [] := by
    rw [reading, tokens_nil]
    rfl
  constructor
  · rw [empty]
    rfl
  · rw [empty]
    rfl
  · intro position
    rw [empty]
    rfl

theorem append (reads : ReadsAs markup text tags found) (shown : ShownBefore markup body s) :
    ReadsAs (body ++ markup) (s ++ text) tags fun position => found (position + s.length) := by
  obtain ⟨parts, rfl, read⟩ := shown
  constructor
  · rw [read, List.flatMap_append, flatMap_text_shown, reads.text]
  · rw [read, List.filterMap_append, filterMap_tag?_shown, reads.tags, List.nil_append]
  · intro position
    rw [read, spans_shown, reads.spans]

theorem styled (reads : ReadsAs markup text tags found) {style : Text} (isStyle : IsStyle style)
    (shown : ShownBefore (bracketed ('/' :: style) ++ markup) body s) :
    ReadsAs (styled style body ++ markup) (s ++ text) (style :: ('/' :: style) :: tags) fun position =>
      ⟨position, position + s.length, some style⟩ :: found (position + s.length) := by
  obtain ⟨parts, rfl, read⟩ := shown
  have whole : reading (SearchQuery.styled style body ++ markup) =
      .shown [] :: .tag style :: (parts.map .shown ++ .shown [] :: .tag ('/' :: style) :: reading markup) := by
    rw [styled_eq, List.append_assoc, List.append_assoc, reading_tag isStyle.isTag, read,
      reading_tag isStyle.isTag_closing]
  constructor
  · rw [whole]
    simp only [List.flatMap_cons, List.flatMap_append, flatMap_text_shown, reads.text, Piece.text, List.nil_append]
  · rw [whole]
    simp only [List.filterMap_cons, List.filterMap_append, filterMap_tag?_shown, reads.tags, Piece.tag?,
      List.nil_append]
  · intro position
    have inner := spans_tag (nest_closing isStyle [] position (position + parts.flatten.length))
      (reads.spans (position + parts.flatten.length))
    have outer : Markup.spans [⟨style, none, position⟩] position
        (parts.map .shown ++ .shown [] :: .tag ('/' :: style) :: reading markup) =
          .ok (⟨position, position + parts.flatten.length, some style⟩ ::
            found (position + parts.flatten.length)) := by
      rw [spans_shown, Markup.spans]
      exact inner
    rw [whole, Markup.spans]
    exact spans_tag (nest_opening isStyle [] position) outer

end ReadsAs

/-! ## Rendering what is read -/

/-- No backslash stands right before an opening bracket. -/
def Unescaped (s : Text) : Prop :=
  ∀ before after, s ≠ before ++ '\\' :: '[' :: after

theorem Unescaped.left {s t : Text} (unescaped : Unescaped (s ++ t)) : Unescaped s := by
  intro before after cut
  exact unescaped before (after ++ t) (by simp [cut])

theorem Unescaped.right {s t : Text} (unescaped : Unescaped (s ++ t)) : Unescaped t := by
  intro before after cut
  exact unescaped (s ++ before) after (by simp [cut])

/-- The pieces that are rendered show what is read, and their tags stand in the same places. -/
theorem pieces_of_unescaped {tokens : List Token} {stretch : Text}
    (unescaped : Unescaped (stretch.reverse ++ (tokens.flatMap Token.read).flatMap Piece.text)) :
    (pieces stretch tokens).flatMap Piece.text =
        stretch.reverse ++ (tokens.flatMap Token.read).flatMap Piece.text ∧
      ∀ opened position, spans opened position (pieces stretch tokens) =
        spans opened (position + stretch.length) (tokens.flatMap Token.read) := by
  have stretchShown : showPlain stretch.reverse = stretch.reverse := showPlain_eq_self unescaped.left
  induction tokens generalizing stretch with
  | nil => simp [pieces, stretchShown, Piece.text, spans]
  | cons token rest ih =>
    cases token with
    | plain c =>
      have spelled : (c :: stretch).reverse ++ (rest.flatMap Token.read).flatMap Piece.text =
          stretch.reverse ++ ((Token.plain c :: rest).flatMap Token.read).flatMap Piece.text := by
        simp [Token.read, Piece.text]
      rw [← spelled] at unescaped ⊢
      obtain ⟨shown, spanned⟩ := ih unescaped (showPlain_eq_self unescaped.left)
      refine ⟨shown, fun opened position => ?_⟩
      rw [pieces, spanned, List.flatMap_cons, Token.read, List.singleton_append, spans]
      simp [Nat.add_assoc]
    | tag backslashes inside =>
      rw [List.flatMap_cons, List.flatMap_append, ← List.append_assoc] at unescaped
      obtain ⟨shown, spanned⟩ := @ih [] unescaped.right rfl
      rw [List.flatMap_cons, List.flatMap_append, Token.read, pieces, stretchShown]
      by_cases odd : backslashes % 2 = 1
      · simp [odd, Piece.text, shown, spans, spanned, Nat.add_assoc]
      · simp [odd, Piece.text, shown, spans, spanned, Nat.add_assoc]

/-- What is read is shown, unless it has a backslash right before an opening bracket. -/
theorem ReadsAs.render_eq {markup text : Text} {tags : List Text} {found : Nat → List Span}
    (reads : ReadsAs markup text tags found) (unescaped : Unescaped text) :
    render markup = .ok ⟨text, found 0⟩ := by
  have readText : ((tokens 0 markup).flatMap Token.read).flatMap Piece.text = text := reads.text
  have unescapedText : Unescaped ([].reverse ++ ((tokens 0 markup).flatMap Token.read).flatMap Piece.text) := by
    rwa [List.reverse_nil, List.nil_append, readText]
  obtain ⟨shown, spanned⟩ := pieces_of_unescaped unescapedText
  have readSpans : Markup.spans [] 0 ((tokens 0 markup).flatMap Token.read) = .ok (found 0) := reads.spans 0
  rw [render, spanned, List.length_nil, readSpans]
  simp only [shown, readText, List.reverse_nil, List.nil_append]
  rfl

end SearchQuery.Markup
