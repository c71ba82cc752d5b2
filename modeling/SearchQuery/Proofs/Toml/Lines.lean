import SearchQuery.Proofs.Toml.Values

/-!
# Lines that are read back

A line of a table gives a value to a key, and a header names the parts of a path.  Keys of letters, digits, hyphens and
underscores need no quotes, so that they end where the blank, the dot or the bracket behind them stands.
-/

set_option autoImplicit false

namespace SearchQuery.Toml

open SearchQuery.Text

/-! ## Keys -/

/-- A key that is written as it is. -/
structure IsBare (key : Text) : Prop where
  nonempty : key ≠ []
  bare : key.all isBareKeyChar = true

theorem IsBare.writeKey_eq {key : Text} (isBare : IsBare key) : writeKey key = key := by
  have nonempty : key.isEmpty = false := List.isEmpty_eq_false_iff.2 isBare.nonempty
  rw [writeKey, nonempty, isBare.bare]
  rfl

theorem IsBare.exists_cons {key : Text} (isBare : IsBare key) :
    ∃ c more, key = c :: more ∧ isBareKeyChar c = true := by
  obtain ⟨c, more, rfl⟩ := List.exists_cons_of_ne_nil isBare.nonempty
  exact ⟨c, more, rfl, List.all_eq_true.1 isBare.bare c List.mem_cons_self⟩

theorem isGapOrNewline_of_isBareKeyChar {c : Char} (bare : isBareKeyChar c = true) : isGapOrNewline c = false := by
  by_contra blank
  simp only [isGapOrNewline, isGap, Bool.not_eq_false, Bool.or_eq_true, decide_eq_true_eq] at blank
  rcases blank with (rfl | rfl) | rfl <;> cases bare

theorem isGap_eq_false {c : Char} (noBlank : isGapOrNewline c = false) : isGap c = false :=
  (Bool.or_eq_false_iff.1 noBlank).1

theorem skipGap_cons {c : Char} (noGap : isGap c = false) (rest : Text) : skipGap (c :: rest) = c :: rest :=
  List.dropWhile_cons_of_neg (by rw [noGap]; exact Bool.false_ne_true)

theorem keyPart_bare {key rest : Text} (isBare : IsBare key) (ends : rest.head?.any isBareKeyChar = false) :
    keyPart (key ++ rest) = .ok (key, rest) := by
  have bare := List.all_eq_true.1 isBare.bare
  have stops : rest.takeWhile isBareKeyChar = [] ∧ rest.dropWhile isBareKeyChar = rest := by
    cases rest with
    | nil => exact ⟨rfl, rfl⟩
    | cons c rest =>
      have stop : isBareKeyChar c = false := ends
      simp [stop]
  have taken : (key ++ rest).takeWhile isBareKeyChar = key := by
    rw [List.takeWhile_append_of_pos bare, stops.1, List.append_nil]
  have dropped : (key ++ rest).dropWhile isBareKeyChar = rest := by
    rw [List.dropWhile_append_of_pos bare, stops.2]
  have nonempty : key.isEmpty = false := List.isEmpty_eq_false_iff.2 isBare.nonempty
  obtain ⟨c, more, rfl, first⟩ := isBare.exists_cons
  rw [keyPart]
  · rw [taken, dropped, nonempty]
    rfl
  · intro more quoted
    obtain ⟨rfl, -⟩ := List.cons.inj quoted
    cases first
  · intro more quoted
    obtain ⟨rfl, -⟩ := List.cons.inj quoted
    cases first

theorem dottedKey_last {key rest : Text} (isBare : IsBare key) (ends : rest.head?.any isBareKeyChar = false)
    (noDot : (skipGap rest).head? ≠ some '.') (fuel : Nat) :
    dottedKey (fuel + 1) (key ++ rest) = .ok ([key], skipGap rest) := by
  rw [dottedKey, keyPart_bare isBare ends]
  simp only [bind, Except.bind]
  split
  next more dotted => exact absurd (by rw [dotted]; rfl) noDot
  next => rfl

theorem dottedKey_dot {key rest : Text} {parts : Key} {after : Text} (isBare : IsBare key) {fuel : Nat}
    (later : dottedKey fuel (skipGap rest) = .ok (parts, after)) :
    dottedKey (fuel + 1) (key ++ '.' :: rest) = .ok (key :: parts, after) := by
  have undotted : skipGap ('.' :: rest) = '.' :: rest := rfl
  rw [dottedKey, keyPart_bare isBare rfl]
  simp only [bind, Except.bind, undotted, later]
  rfl

theorem skipGap_bare {key : Text} (isBare : IsBare key) (rest : Text) : skipGap (key ++ rest) = key ++ rest := by
  obtain ⟨c, more, rfl, first⟩ := isBare.exists_cons
  exact skipGap_cons (isGap_eq_false (isGapOrNewline_of_isBareKeyChar first)) _

theorem exists_join_cons (separator part : Text) (parts : List Text) :
    ∃ tail, join separator (part :: parts) = part ++ tail := by
  cases parts with
  | nil => exact ⟨[], by rw [join, List.intercalate_singleton, List.append_nil]⟩
  | cons next parts =>
    exact ⟨separator ++ join separator (next :: parts), by
      rw [join, List.intercalate_cons_cons, List.append_assoc, join]⟩

theorem length_le_join {key : Key} (bare : ∀ part ∈ key, IsBare part) :
    key.length ≤ (join "." key).length := by
  induction key with
  | nil => exact Nat.zero_le _
  | cons part parts ih =>
    obtain ⟨first, later⟩ := List.forall_mem_cons.1 bare
    have own : 0 < part.length := List.length_pos_iff.2 first.nonempty
    cases parts with
    | nil =>
      rw [join, List.intercalate_singleton]
      exact own
    | cons next parts =>
      have more := ih later
      rw [join] at more ⊢
      rw [List.intercalate_cons_cons, List.length_append, List.length_append, List.length_cons]
      omega

/-- The parts of a key in a header. -/
theorem readKey_header {key : Key} (nonempty : key ≠ []) (bare : ∀ part ∈ key, IsBare part) (rest : Text) :
    readKey (join "." key ++ ']' :: rest) = .ok (key, ']' :: rest) := by
  have step : ∀ fuel, key.length ≤ fuel →
      dottedKey fuel (join "." key ++ ']' :: rest) = .ok (key, ']' :: rest) := by
    induction key with
    | nil => exact absurd rfl nonempty
    | cons part parts ih =>
      obtain ⟨first, later⟩ := List.forall_mem_cons.1 bare
      intro fuel enough
      rw [List.length_cons] at enough
      obtain ⟨fuel, rfl⟩ : ∃ more, fuel = more + 1 := ⟨fuel - 1, by omega⟩
      cases parts with
      | nil =>
        have noDot : (skipGap (']' :: rest)).head? ≠ some '.' := by simp [skipGap, isGap]
        rw [join, List.intercalate_singleton]
        exact dottedKey_last first rfl noDot fuel
      | cons next parts =>
        have found := ih (List.cons_ne_nil _ _) later fuel (by omega)
        have unspaced : skipGap (join "." (next :: parts) ++ ']' :: rest) =
            join "." (next :: parts) ++ ']' :: rest := by
          obtain ⟨tail, joined⟩ := exists_join_cons "." next parts
          rw [joined, List.append_assoc]
          exact skipGap_bare (later next List.mem_cons_self) _
        rw [← unspaced] at found
        have spelled : join "." (part :: next :: parts) ++ ']' :: rest =
            part ++ '.' :: (join "." (next :: parts) ++ ']' :: rest) := by
          rw [join, List.intercalate_cons_cons]
          simp [join]
        rw [spelled]
        exact dottedKey_dot first found
  refine step _ ?_
  have short := length_le_join bare
  rw [List.length_append]
  omega

/-! ## Entries -/

/-- The values of a line that are read back: truth values and lists of texts. -/
inductive IsPlain : Value → Prop
  | bool (b : Bool) : IsPlain (.bool b)
  | texts (texts : List Text) : IsPlain (.list (texts.map .text))

theorem length_le_writeItems (texts : List Text) : texts.length ≤ (writeItems 1 (texts.map .text)).length := by
  induction texts with
  | nil => exact Nat.zero_le _
  | cons text texts ih =>
    have feed : ",\n".toList.length = 2 := rfl
    rw [List.map_cons, writeItems]
    simp only [List.length_append, List.length_cons]
    omega

theorem length_le_writeValue (texts : List Text) :
    texts.length + 2 ≤ (writeValue 0 (.list (texts.map .text))).length := by
  cases texts with
  | nil =>
    rw [List.map_nil, writeValue]
    decide
  | cons text texts =>
    have count := length_le_writeItems (text :: texts)
    have spelled : writeValue 0 (.list ((text :: texts).map .text)) =
        "[\n".toList ++ writeItems 1 ((text :: texts).map .text) ++ [] ++ "]".toList := by
      rw [writeValue]
      rfl
    have opening : "[\n".toList.length = 2 := rfl
    rw [spelled]
    simp only [List.length_append] at count ⊢
    omega

/-- A value is read back from the line that it stands on. -/
theorem value_plain {v : Value} (plain : IsPlain v) (rest : Text) {fuel : Nat}
    (enough : (writeValue 0 v).length < fuel) :
    value fuel maxLevels (writeValue 0 v ++ '\n' :: rest) = .ok (v, '\n' :: rest) := by
  cases plain with
  | bool b =>
    obtain ⟨fuel, rfl⟩ : ∃ more, fuel = more + 1 := ⟨fuel - 1, by omega⟩
    exact value_bool b _ fuel maxLevels
  | texts texts =>
    have long := length_le_writeValue texts
    exact value_list texts _ (by omega)

theorem skipGap_writeValue {v : Value} (plain : IsPlain v) (rest : Text) :
    skipGap (' ' :: (writeValue 0 v ++ rest)) = writeValue 0 v ++ rest := by
  cases plain with
  | bool b =>
    rw [writeValue]
    cases b <;> rfl
  | texts texts =>
    rw [writeValue]
    cases texts <;> rfl

theorem pair_written {key : Text} {v : Value} (isBare : IsBare key) (plain : IsPlain v) (rest : Text)
    {fuel : Nat} (enough : (writeValue 0 v).length < fuel) :
    pair (fuel + 1) maxLevels (key ++ ' ' :: '=' :: ' ' :: (writeValue 0 v ++ '\n' :: rest)) =
      .ok ([key], v, '\n' :: rest) := by
  have unspaced : skipGap (' ' :: '=' :: ' ' :: (writeValue 0 v ++ '\n' :: rest)) =
      '=' :: ' ' :: (writeValue 0 v ++ '\n' :: rest) := rfl
  have found : readKey (key ++ ' ' :: '=' :: ' ' :: (writeValue 0 v ++ '\n' :: rest)) =
      .ok ([key], '=' :: ' ' :: (writeValue 0 v ++ '\n' :: rest)) := by
    rw [readKey, dottedKey_last isBare rfl (by rw [unspaced]; simp), unspaced]
  rw [pair, found]
  change (value fuel maxLevels (skipGap (' ' :: (writeValue 0 v ++ '\n' :: rest))) >>= _) = _
  rw [skipGap_writeValue plain, value_plain plain rest enough]
  rfl

/-! ## Statements -/

/-- A line with a key and a value adds an entry. -/
theorem statement_entry {draft after : Draft} {key : Text} {v : Value} (isBare : IsBare key) (plain : IsPlain v)
    {rest : Text} (added : draft.addEntry [key] v ('\n' :: rest) = .ok after) :
    statement draft (key ++ ' ' :: '=' :: ' ' :: (writeValue 0 v ++ '\n' :: rest)) =
      .ok (after, '\n' :: rest) := by
  have enough : (writeValue 0 v).length <
      2 * (key ++ ' ' :: '=' :: ' ' :: (writeValue 0 v ++ '\n' :: rest)).length + 1 := by
    simp only [List.length_append, List.length_cons]
    omega
  have paired := pair_written isBare plain rest enough
  obtain ⟨c, more, rfl, first⟩ := isBare.exists_cons
  have isStart : isKeyStart c = true := by rw [isKeyStart, first]; rfl
  rw [List.cons_append, statement]
  · rw [if_pos isStart, ← List.cons_append, paired]
    change (draft.addEntry [c :: more] v ('\n' :: rest) >>= _) = _
    rw [added]
    rfl
  · rintro rfl
    cases first
  · rintro rfl
    cases first

/-- A header opens its table. -/
theorem statement_header {draft after : Draft} {key : Key} (nonempty : key ≠ [])
    (bare : ∀ part ∈ key, IsBare part) {rest : Text}
    (opened : draft.settle.openTable key (']' :: '\n' :: rest) = .ok after) :
    statement draft ('[' :: (join "." key ++ ']' :: '\n' :: rest)) = .ok (after, '\n' :: rest) := by
  have found := readKey_header nonempty bare ('\n' :: rest)
  obtain ⟨part, parts, rfl⟩ := List.exists_cons_of_ne_nil nonempty
  obtain ⟨tail, joined⟩ := exists_join_cons "." part parts
  have isBare := bare part List.mem_cons_self
  have unspaced := skipGap_bare isBare (tail ++ ']' :: '\n' :: rest)
  rw [← List.append_assoc, ← joined] at unspaced
  change headerStatement draft (join "." (part :: parts) ++ ']' :: '\n' :: rest) = _
  rw [headerStatement]
  · rw [unspaced, found]
    change (draft.settle.openTable (part :: parts) (']' :: '\n' :: rest) >>= _) = _
    rw [opened]
    rfl
  · obtain ⟨c, more, rfl, first⟩ := isBare.exists_cons
    intro more opening
    rw [joined] at opening
    obtain ⟨rfl, -⟩ := List.cons.inj opening
    cases first

end SearchQuery.Toml
