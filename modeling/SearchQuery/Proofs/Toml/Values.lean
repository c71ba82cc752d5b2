import Mathlib.Data.List.DropRight
import SearchQuery.Toml.Reader
import SearchQuery.Toml.Writer

/-!
# Values that are read back

A text is written with escapes for quotes, backslashes and controls, and reading it undoes them.  So lists of texts are
read back as they were written, whatever the texts are.
-/

set_option autoImplicit false

namespace SearchQuery.Toml

open SearchQuery.Text

/-! ## Strings -/

theorem hexEscape_hex {n : Nat} (small : n < 128) (rest : Text) :
    hexEscape 4 (hex 4 n ++ rest) = .ok ([Char.ofNat n], rest) := by
  have checked : ∀ n < 128, (hex 4 n).length = 4 ∧
      ((hex 4 n).mapM hexDigit?).map (fun values => (values.length, ofDigits 16 values)) = some (4, n) ∧
      n.isValidChar := by
    decide +kernel
  obtain ⟨four, spelled, valid⟩ := checked n small
  obtain ⟨values, digits, equal⟩ := Option.map_eq_some_iff.1 spelled
  obtain ⟨count, code⟩ := Prod.mk.inj equal
  rw [hexEscape, List.take_left' four, List.drop_left' four, digits]
  simp only [count, code, ne_eq, not_true_eq_false, if_false, valid, if_true]

/-- A character is written as it is, or as an escape that is read as the character. -/
theorem writeChar_cases (c : Char) :
    (writeChar c = [c] ∧ c ≠ '"' ∧ c ≠ '\\' ∧ isControl c = false) ∨
      ∃ escape, writeChar c = '\\' :: escape ∧
        ∀ rest, escapeSequence false (escape ++ rest) = .ok ([c], rest) := by
  rw [writeChar]
  by_cases quote : c = '"'
  · subst quote
    exact .inr ⟨['"'], rfl, fun _ => rfl⟩
  by_cases backslash : c = '\\'
  · subst backslash
    exact .inr ⟨['\\'], rfl, fun _ => rfl⟩
  by_cases feed : c = '\n'
  · subst feed
    exact .inr ⟨['n'], rfl, fun _ => rfl⟩
  by_cases carriage : c = '\r'
  · subst carriage
    exact .inr ⟨['r'], rfl, fun _ => rfl⟩
  by_cases backspace : c = '\x08'
  · subst backspace
    exact .inr ⟨['b'], rfl, fun _ => rfl⟩
  by_cases page : c = '\x0c'
  · subst page
    exact .inr ⟨['f'], rfl, fun _ => rfl⟩
  rw [if_neg quote, if_neg backslash, if_neg feed, if_neg carriage, if_neg backspace, if_neg page]
  by_cases control : isControl c = true
  · refine .inr ⟨'u' :: hex 4 c.toNat, if_pos control, fun rest => ?_⟩
    have small : c.toNat < 128 := by
      simp only [isControl, Bool.or_eq_true, Bool.and_eq_true, decide_eq_true_eq] at control
      omega
    change hexEscape 4 (hex 4 c.toNat ++ rest) = _
    rw [hexEscape_hex small, Char.ofNat_toNat]
  · exact .inl ⟨if_neg control, quote, backslash, Bool.eq_false_iff.2 control⟩

theorem basicString_plain {c : Char} (notQuote : c ≠ '"') (notBackslash : c ≠ '\\')
    (legal : isControl c = false) {fuel : Nat} {rest s after : Text}
    (later : basicString false fuel rest = .ok (s, after)) :
    basicString false (fuel + 1) (c :: rest) = .ok (c :: s, after) := by
  have notIllegal : isIllegal false c = false := by rw [isIllegal, legal, Bool.false_and]
  rw [basicString, if_neg notQuote, if_neg notBackslash, notIllegal, later]
  rfl

theorem basicString_escape {c : Char} {escape : Text} {fuel : Nat} {rest s after : Text}
    (read : escapeSequence false escape = .ok ([c], rest))
    (later : basicString false fuel rest = .ok (s, after)) :
    basicString false (fuel + 1) ('\\' :: escape) = .ok (c :: s, after) := by
  rw [basicString, if_neg (by decide), if_pos rfl, read]
  change (basicString false fuel rest >>= _) = _
  rw [later]
  rfl

/-- Reading a string up to its closing quote undoes the escapes. -/
theorem basicString_written (s rest : Text) {fuel : Nat} (enough : (s.flatMap writeChar).length < fuel) :
    basicString false fuel (s.flatMap writeChar ++ '"' :: rest) = .ok (s, rest) := by
  induction s generalizing fuel with
  | nil =>
    obtain ⟨fuel, rfl⟩ := Nat.exists_eq_add_one_of_ne_zero (Nat.ne_of_gt enough)
    rfl
  | cons c s ih =>
    rw [List.flatMap_cons, List.length_append] at enough
    obtain ⟨fuel, rfl⟩ : ∃ more, fuel = more + 1 := Nat.exists_eq_add_one_of_ne_zero (by omega)
    rw [List.flatMap_cons, List.append_assoc]
    rcases writeChar_cases c with ⟨plain, notQuote, notBackslash, legal⟩ | ⟨escape, spelled, read⟩
    · rw [plain, List.length_singleton] at enough
      rw [plain]
      exact basicString_plain notQuote notBackslash legal (ih (by omega))
    · rw [spelled, List.length_cons] at enough
      rw [spelled]
      exact basicString_escape (read _) (ih (by omega))

/-! ## Values -/

/-- Three quotes would open a string of several lines. -/
theorem after?_quotes_written (s : Text) {rest : Text} (notQuote : rest.head? ≠ some '"') :
    after? "\"\"" (s.flatMap writeChar ++ '"' :: rest) = none := by
  change after? ['"', '"'] _ = none
  cases s with
  | nil =>
    cases rest with
    | nil => rfl
    | cons c rest =>
      have differs : '"' ≠ c := fun same => notQuote (by rw [same]; rfl)
      simp [after?, differs]
  | cons c s =>
    rw [List.flatMap_cons, List.append_assoc]
    rcases writeChar_cases c with ⟨plain, isPlain, -⟩ | ⟨escape, spelled, -⟩
    · rw [plain]
      simp [after?, Ne.symm isPlain]
    · rw [spelled]
      simp [after?]

theorem value_text (s : Text) {rest : Text} (notQuote : rest.head? ≠ some '"') (fuel levels : Nat) :
    value (fuel + 1) levels (writeText s ++ rest) = .ok (.text s, rest) := by
  have spelled : writeText s ++ rest = '"' :: (s.flatMap writeChar ++ '"' :: rest) := by
    simp [writeText]
  have enough : (s.flatMap writeChar).length < (s.flatMap writeChar ++ '"' :: rest).length + 1 := by
    rw [List.length_append]
    omega
  rw [spelled, value]
  simp only [after?_quotes_written s notQuote, basicString_written s rest enough]
  rfl

theorem value_bool (b : Bool) (rest : Text) (fuel levels : Nat) :
    value (fuel + 1) levels (writeValue 0 (.bool b) ++ rest) = .ok (.bool b, rest) := by
  rw [writeValue]
  cases b
  · change value (fuel + 1) levels ('f' :: 'a' :: 'l' :: 's' :: 'e' :: rest) = _
    rw [value]
    · rfl
    all_goals simp
  · change value (fuel + 1) levels ('t' :: 'r' :: 'u' :: 'e' :: rest) = _
    rw [value]
    · rfl
    all_goals simp

/-! ## Lists -/

theorem skipComment_eq_self {s : Text} (noComment : s.head? ≠ some '#') : skipComment s = .ok s := by
  cases s with
  | nil => rfl
  | cons c rest =>
    have notHash : c ≠ '#' := fun same => noComment (by rw [same]; rfl)
    simp [skipComment, notHash]

/-- Where no comment follows, only blanks and line feeds are passed over. -/
theorem skipListFiller_eq {s : Text} (noComment : (s.dropWhile isGapOrNewline).head? ≠ some '#') :
    skipListFiller s = .ok (s.dropWhile isGapOrNewline) := by
  have settled : ∀ fuel, skipFiller fuel (s.dropWhile isGapOrNewline) = .ok (s.dropWhile isGapOrNewline) := by
    intro fuel
    cases fuel with
    | zero => rfl
    | succ fuel =>
      rw [skipFiller, List.dropWhile_idempotent, skipComment_eq_self noComment]
      exact if_pos rfl
  rw [skipListFiller, skipFiller, skipComment_eq_self noComment]
  change (if (s.dropWhile isGapOrNewline).length = s.length then Except.ok s
    else skipFiller s.length (s.dropWhile isGapOrNewline)) = _
  split
  next same => rw [(List.dropWhile_suffix _).eq_of_length same]
  next => exact settled s.length

theorem dropWhile_items_nil (rest : Text) :
    (writeItems 1 [] ++ ']' :: rest).dropWhile isGapOrNewline = ']' :: rest := by
  rw [writeItems]
  rfl

theorem dropWhile_items_cons (text : Text) (texts : List Text) (rest : Text) :
    (writeItems 1 ((text :: texts).map .text) ++ ']' :: rest).dropWhile isGapOrNewline =
      writeText text ++ ',' :: '\n' :: (writeItems 1 (texts.map .text) ++ ']' :: rest) := by
  rw [List.map_cons, writeItems, writeValue]
  simp [listIndent, writeText, isGapOrNewline, isGap]

theorem skipListFiller_items (texts : List Text) (rest : Text) :
    skipListFiller ('\n' :: (writeItems 1 (texts.map .text) ++ ']' :: rest)) =
      .ok ((writeItems 1 (texts.map .text) ++ ']' :: rest).dropWhile isGapOrNewline) := by
  have feed : ∀ s : Text, ('\n' :: s).dropWhile isGapOrNewline = s.dropWhile isGapOrNewline := fun _ => rfl
  rw [← feed]
  refine skipListFiller_eq ?_
  rw [feed]
  cases texts with
  | nil =>
    rw [List.map_nil, dropWhile_items_nil]
    simp
  | cons text texts =>
    rw [dropWhile_items_cons]
    simp [writeText]

/-- The items of a list are read one after another, each with the comma and the line feed behind it. -/
theorem listItems_written (texts : List Text) (rest : Text) {fuel : Nat} (enough : texts.length + 1 < fuel)
    (levels : Nat) :
    listItems fuel levels
        ((writeItems 1 (texts.map .text) ++ ']' :: rest).dropWhile isGapOrNewline) =
      .ok (texts.map .text, rest) := by
  obtain ⟨fuel, rfl⟩ : ∃ more, fuel = more + 2 := ⟨fuel - 2, by omega⟩
  induction texts generalizing fuel with
  | nil =>
    rw [List.map_nil, dropWhile_items_nil, listItems]
  | cons text texts ih =>
    rw [List.length_cons] at enough
    obtain ⟨fuel, rfl⟩ : ∃ more, fuel = more + 1 := ⟨fuel - 1, by omega⟩
    have comma : skipListFiller (',' :: '\n' :: (writeItems 1 (texts.map .text) ++ ']' :: rest)) =
        .ok (',' :: '\n' :: (writeItems 1 (texts.map .text) ++ ']' :: rest)) :=
      skipListFiller_eq (by simp [isGapOrNewline, isGap])
    rw [dropWhile_items_cons, listItems]
    · rw [value_text text (by simp)]
      change (skipListFiller (',' :: '\n' :: (writeItems 1 (texts.map .text) ++ ']' :: rest)) >>= _) = _
      rw [comma]
      change (skipListFiller ('\n' :: (writeItems 1 (texts.map .text) ++ ']' :: rest)) >>= _) = _
      rw [skipListFiller_items]
      change (listItems _ levels
        ((writeItems 1 (texts.map .text) ++ ']' :: rest).dropWhile isGapOrNewline) >>= _) = _
      rw [ih fuel (by omega)]
      rfl
    · simp [writeText]

/-- A list of texts is read back as it was written. -/
theorem value_list (texts : List Text) (rest : Text) {fuel : Nat} (enough : texts.length + 2 < fuel) :
    value fuel maxLevels (writeValue 0 (.list (texts.map .text)) ++ rest) =
      .ok (.list (texts.map .text), rest) := by
  obtain ⟨fuel, rfl⟩ : ∃ more, fuel = more + 1 := ⟨fuel - 1, by omega⟩
  cases texts with
  | nil =>
    have spelled : writeValue 0 (.list ([].map .text)) ++ rest = '[' :: ']' :: rest := by
      rw [List.map_nil, writeValue]
      rfl
    have closed : skipListFiller (']' :: rest) = .ok (']' :: rest) :=
      skipListFiller_eq (by simp [isGapOrNewline, isGap])
    obtain ⟨fuel, rfl⟩ : ∃ more, fuel = more + 1 := ⟨fuel - 1, by omega⟩
    rw [spelled, value]
    change (skipListFiller (']' :: rest) >>= _) = _
    rw [closed]
    change (listItems (fuel + 1) _ (']' :: rest) >>= _) = _
    rw [listItems]
    rfl
  | cons text texts =>
    have spelled : writeValue 0 (.list ((text :: texts).map .text)) ++ rest =
        '[' :: '\n' :: (writeItems 1 ((text :: texts).map .text) ++ ']' :: rest) := by
      rw [writeValue]
      simp [listIndent]
    rw [spelled, value]
    change (skipListFiller ('\n' :: (writeItems 1 ((text :: texts).map .text) ++ ']' :: rest)) >>= _) = _
    rw [skipListFiller_items]
    change (listItems fuel _
      ((writeItems 1 ((text :: texts).map .text) ++ ']' :: rest).dropWhile isGapOrNewline) >>= _) = _
    rw [listItems_written (text :: texts) rest (by omega)]
    rfl

end SearchQuery.Toml
