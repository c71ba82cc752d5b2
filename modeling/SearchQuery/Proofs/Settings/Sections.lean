import SearchQuery.Proofs.Settings.Refusal

/-!
# Sections of one field

The name of a section that overrides selectors may be written in any case, so several sections of a document may be for
one field.  Each is read and checked, but it replaces what an earlier one for the same field has put down: the lists
of the last section are in force, and those of the others are lost, also a list that the last section does
not have.
-/

set_option autoImplicit false

namespace SearchQuery

/-- The override has the lists of the section and no others. -/
def Override.IsOf (override : Override) (section_ : Value) : Prop :=
  ∃ entries, section_ = .table entries ∧
    (∀ texts, entries.lookup "aliases".toList = some (Settings.textList texts) ↔ override.aliases = some texts) ∧
    ∀ texts, entries.lookup "symbols".toList = some (Settings.textList texts) ↔ override.symbols = some texts

namespace Overrides

theorem lookup_cons (first : Field) (given : Override) (rest : Overrides) (field : Field) :
    List.lookup field ((first, given) :: rest) = if field = first then some given else rest.lookup field := by
  rw [List.lookup_cons]
  by_cases same : field = first
  · rw [if_pos same, beq_iff_eq.2 same]
  · rw [if_neg same, beq_eq_false_iff_ne.2 same]

theorem lookup_put (overrides : Overrides) (field : Field) (override : Override) (other : Field) :
    (overrides.put field override).lookup other =
      if other = field then some override else overrides.lookup other := by
  induction overrides with
  | nil => exact lookup_cons field override [] other
  | cons entry rest ih =>
    obtain ⟨first, given⟩ := entry
    rw [put]
    by_cases replaced : first = field
    · rw [if_pos replaced, lookup_cons, lookup_cons, replaced]
      by_cases same : other = field
      · rw [if_pos same, if_pos same]
      · rw [if_neg same, if_neg same, if_neg same]
    · rw [if_neg replaced, lookup_cons, lookup_cons, ih]
      by_cases found : other = first
      · have different : other ≠ field := fun same => replaced (found.symm.trans same)
        rw [if_pos found, if_neg different, if_pos found]
      · rw [if_neg found, if_neg found]

end Overrides

namespace Settings

/-! ## One section -/

theorem texts?_eq_some {items : List Value} {texts : List Text} (found : Value.texts? items = some texts) :
    items = texts.map .text := by
  induction items generalizing texts with
  | nil =>
    cases found
    rfl
  | cons item rest ih =>
    cases item with
    | text s =>
      obtain ⟨more, foundMore, rfl⟩ := Option.map_eq_some_iff.1 found
      rw [ih foundMore, List.map_cons]
    | _ => cases found

theorem textList_injective {texts others : List Text} (same : textList texts = textList others) :
    texts = others := by
  refine List.map_injective_iff.2 ?_ (Value.list.inj same)
  intro s t equal
  exact Value.text.inj equal

theorem readTexts_eq_ok {key : Text} {entry : Option Value} {read : Option (List Text)}
    (success : readTexts key entry = .ok read) (texts : List Text) :
    entry = some (textList texts) ↔ read = some texts := by
  rw [readTexts.eq_def] at success
  split at success
  · cases success
    simp
  · split at success
    next items given found =>
      cases success
      rw [texts?_eq_some found]
      constructor
      · intro same
        rw [textList_injective (Option.some.inj same)]
      · rintro ⟨⟩
        rfl
    next => cases success
  · cases success

theorem isOf_of_readOverride {key : Text} {section_ : Value} {override : Override}
    (success : readOverride key section_ = .ok override) : override.IsOf section_ := by
  cases section_ with
  | table entries =>
    rw [readOverride] at success
    obtain ⟨aliases, aliasesRead, success⟩ := Outcome.bind_eq_ok success
    obtain ⟨symbols, symbolsRead, success⟩ := Outcome.bind_eq_ok success
    obtain ⟨⟨⟩, -, success⟩ := Outcome.bind_eq_ok success
    obtain ⟨⟨⟩, -, success⟩ := Outcome.bind_eq_ok success
    cases success
    exact ⟨entries, rfl, readTexts_eq_ok aliasesRead, readTexts_eq_ok symbolsRead⟩
  | _ => cases success

/-! ## One section after another -/

/-- Reading a section puts its override down for the field that it names. -/
theorem readSections_cons_eq_ok {overrides result : Overrides} {name : Text} {section_ : Value}
    {rest : List (Text × Value)} (success : readSections overrides ((name, section_) :: rest) = .ok result) :
    ∃ field override, Field.ofAnyCase? name = some field ∧ override.IsOf section_ ∧
      readSections (overrides.put field override) rest = .ok result := by
  rw [readSections] at success
  obtain ⟨override, overrideRead, success⟩ := Outcome.bind_eq_ok success
  obtain ⟨field, fieldRead, success⟩ := Outcome.bind_eq_ok success
  obtain ⟨_, ⟨⟩, named⟩ := readField_eq_ok_iff.1 fieldRead
  exact ⟨field, override, named, isOf_of_readOverride overrideRead, success⟩

theorem readSections_append_eq_ok {overrides result : Overrides} {before after : List (Text × Value)}
    (success : readSections overrides (before ++ after) = .ok result) :
    ∃ between, readSections overrides before = .ok between ∧ readSections between after = .ok result := by
  induction before generalizing overrides with
  | nil => exact ⟨overrides, rfl, success⟩
  | cons first rest ih =>
    obtain ⟨name, section_⟩ := first
    rw [List.cons_append, readSections] at success
    obtain ⟨override, overrideRead, success⟩ := Outcome.bind_eq_ok success
    obtain ⟨field, fieldRead, success⟩ := Outcome.bind_eq_ok success
    obtain ⟨between, early, late⟩ := ih success
    refine ⟨between, ?_, late⟩
    rw [readSections, overrideRead]
    change (readField _ _).bind _ = _
    rw [fieldRead]
    exact early

/-- Behind sections a field has the override that it had, if none of them names the field, or else the override of one
that does. -/
theorem lookup_of_readSections {overrides result : Overrides} {sections : List (Text × Value)}
    (success : readSections overrides sections = .ok result) (field : Field) :
    (∀ entry ∈ sections, Field.ofAnyCase? entry.1 ≠ some field) ∧
        result.lookup field = overrides.lookup field ∨
      ∃ entry ∈ sections, Field.ofAnyCase? entry.1 = some field ∧
        ∃ override, override.IsOf entry.2 ∧ result.lookup field = some override := by
  induction sections generalizing overrides with
  | nil =>
    cases success
    exact .inl ⟨List.forall_mem_nil _, rfl⟩
  | cons first rest ih =>
    obtain ⟨name, section_⟩ := first
    obtain ⟨named, override, isNamed, isOf, success⟩ := readSections_cons_eq_ok success
    rcases ih success with ⟨unnamed, kept⟩ | ⟨entry, member, rest⟩
    · rw [Overrides.lookup_put] at kept
      by_cases same : field = named
      · subst same
        rw [if_pos rfl] at kept
        exact .inr ⟨_, List.mem_cons_self, isNamed, override, isOf, kept⟩
      · rw [if_neg same] at kept
        refine .inl ⟨List.forall_mem_cons.2 ⟨?_, unnamed⟩, kept⟩
        intro alsoNamed
        exact same (Option.some.inj (alsoNamed.symm.trans isNamed))
    · exact .inr ⟨entry, List.mem_cons_of_mem _ member, rest⟩

/-! ## Accepted documents -/

theorem readSections_of_ofDocument {path : Option Path} {document sections : List (Text × Value)}
    {settings : Settings} (accepted : ofDocument path document = .ok settings)
    (given : document.lookup "selectors".toList = some (.table sections)) :
    readSections [] sections = .ok settings.overrides := by
  rw [ofDocument] at accepted
  obtain ⟨fieldsEntry, -, accepted⟩ := Outcome.bind_eq_ok accepted
  obtain ⟨fields, -, accepted⟩ := Outcome.bind_eq_ok accepted
  obtain ⟨coloredEntry, -, accepted⟩ := Outcome.bind_eq_ok accepted
  obtain ⟨colored, -, accepted⟩ := Outcome.bind_eq_ok accepted
  obtain ⟨overrides, overridesRead, accepted⟩ := Outcome.bind_eq_ok accepted
  cases accepted
  rw [given] at overridesRead
  exact overridesRead

/-- Every section of an accepted document names a field, and the field has an override.  It is the section's own if no
later section names the field, and otherwise that of a later one. -/
theorem override_of_section {path : Option Path} {document sections : List (Text × Value)} {settings : Settings}
    (accepted : ofDocument path document = .ok settings)
    (given : document.lookup "selectors".toList = some (.table sections)) {before after : List (Text × Value)}
    {name : Text} {section_ : Value} (listed : sections = before ++ (name, section_) :: after) :
    ∃ field override, Field.ofAnyCase? name = some field ∧ settings.overrides.lookup field = some override ∧
      ((∀ later ∈ after, Field.ofAnyCase? later.1 ≠ some field) ∧ override.IsOf section_ ∨
        ∃ later ∈ after, Field.ofAnyCase? later.1 = some field ∧ override.IsOf later.2) := by
  have success := readSections_of_ofDocument accepted given
  rw [listed] at success
  obtain ⟨between, -, success⟩ := readSections_append_eq_ok success
  obtain ⟨field, own, named, isOf, success⟩ := readSections_cons_eq_ok success
  rcases lookup_of_readSections success field with
    ⟨unnamed, kept⟩ | ⟨later, member, laterNamed, override, ofLater, found⟩
  · rw [Overrides.lookup_put, if_pos rfl] at kept
    exact ⟨field, own, named, kept, .inl ⟨unnamed, isOf⟩⟩
  · exact ⟨field, override, named, found, .inr ⟨later, member, laterNamed, ofLater⟩⟩

/-- A section whose name is in capitals replaces one before it, and none of those behind it is for its field. -/
theorem override_of_section_capitals :
    let earlier : Text × Value := ("title".toList, .table [("aliases".toList, textList ["lied".toList])])
    let own : Value := .table [("symbols".toList, textList ["%".toList])]
    let later : Text × Value := ("channel".toList, .table [])
    let document : List (Text × Value) :=
      [("selectors".toList, .table [earlier, ("TITLE".toList, own), later])]
    ∃ settings, ofDocument none document = .ok settings ∧
      ∃ field override, Field.ofAnyCase? "TITLE".toList = some field ∧
        settings.overrides.lookup field = some override ∧
        ((∀ entry ∈ [later], Field.ofAnyCase? entry.1 ≠ some field) ∧ override.IsOf own ∨
          ∃ entry ∈ [later], Field.ofAnyCase? entry.1 = some field ∧ override.IsOf entry.2) := by
  intro earlier own later document
  let settings : Settings := { overrides := [(.title, ⟨none, some ["%".toList]⟩), (.channel, ⟨none, none⟩)] }
  have accepted : ofDocument none document = .ok settings := rfl
  have listed : [earlier, ("TITLE".toList, own), later] = [earlier] ++ ("TITLE".toList, own) :: [later] := rfl
  exact ⟨settings, accepted, override_of_section accepted rfl listed⟩

/-- The aliases of a section are lost if a later section with the same name in another case has only symbols. -/
theorem not_override_of_every_section :
    ¬∀ (path : Option Path) (document sections entries : List (Text × Value)) (settings : Settings) (name : Text)
      (field : Field) (aliases : List Text), ofDocument path document = .ok settings →
        document.lookup "selectors".toList = some (.table sections) → (name, .table entries) ∈ sections →
        Field.ofAnyCase? name = some field → entries.lookup "aliases".toList = some (textList aliases) →
        ∃ override, settings.overrides.lookup field = some override ∧ override.aliases = some aliases := by
  intro claimed
  let entries : List (Text × Value) := [("aliases".toList, textList ["x".toList])]
  let sections : List (Text × Value) := [
    ("Title".toList, .table entries), ("title".toList, .table [("symbols".toList, textList ["%".toList])])]
  let settings : Settings := { overrides := [(.title, ⟨none, some ["%".toList]⟩)] }
  have accepted : ofDocument none [("selectors".toList, .table sections)] = .ok settings := rfl
  obtain ⟨override, found, kept⟩ := claimed none _ sections entries settings "Title".toList .title ["x".toList]
    accepted rfl List.mem_cons_self rfl rfl
  cases found
  cases kept

end Settings

end SearchQuery
