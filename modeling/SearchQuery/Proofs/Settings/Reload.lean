import Mathlib.Data.List.Nodup
import SearchQuery.Proofs.Files.Written
import SearchQuery.Proofs.Settings.Usable
import SearchQuery.Proofs.Toml.Tables

/-!
# Saved settings

The document that settings are saved as reads as the same settings.  Only overrides that replace nothing have no
section in it; a field without an override has the same rule, so that the registry and the compiler are the same ones.
-/

set_option autoImplicit false

namespace SearchQuery

/-- Whether an override replaces anything. -/
def Override.replaces (override : Override) : Bool :=
  override.aliases.isSome || override.symbols.isSome

theorem Override.eq_of_not_replaces {override : Override} (idle : override.replaces = false) :
    override = ⟨none, none⟩ := by
  obtain ⟨aliases, symbols⟩ := override
  cases aliases with
  | some names => cases idle
  | none =>
    cases symbols with
    | some spelled => cases idle
    | none => rfl

/-! ## Overrides without effect -/

namespace Overrides

theorem put_of_not_mem {field : Field} {overrides : Overrides} (override : Override)
    (absent : field ∉ overrides.map (·.1)) : overrides.put field override = overrides ++ [(field, override)] := by
  induction overrides with
  | nil => rfl
  | cons entry rest ih =>
    simp only [List.map_cons, List.mem_cons, not_or] at absent
    rw [put, if_neg (Ne.symm absent.1), ih absent.2, List.cons_append]

/-- Dropping the overrides that replace nothing changes the replacements of no field. -/
theorem getD_lookup_filter {overrides : Overrides} (oneEach : (overrides.map (·.1)).Nodup) (field : Field) :
    (List.lookup field (overrides.filter (·.2.replaces))).getD ⟨none, none⟩ =
      (overrides.lookup field).getD ⟨none, none⟩ := by
  induction overrides with
  | nil => rfl
  | cons entry rest ih =>
    obtain ⟨first, override⟩ := entry
    obtain ⟨absent, restOnce⟩ := List.nodup_cons.1 oneEach
    cases effect : override.replaces with
    | true =>
      rw [List.filter_cons_of_pos (by exact effect), List.lookup_cons, List.lookup_cons]
      cases field == first with
      | true => rfl
      | false => exact ih restOnce
    | false =>
      rw [List.filter_cons_of_neg (by simp [effect]), ih restOnce, List.lookup_cons]
      cases same : field == first with
      | false => rfl
      | true =>
        rw [eq_of_beq same, lookup_eq_none_of_notMem absent, Override.eq_of_not_replaces effect]
        rfl

theorem oneEach_filter {overrides : Overrides} (oneEach : (overrides.map (·.1)).Nodup) :
    ((overrides.filter (·.2.replaces)).map (·.1)).Nodup :=
  oneEach.sublist (List.filter_sublist.map _)

end Overrides

theorem Registry.ofOverrides_filter {overrides : Overrides} (oneEach : (overrides.map (·.1)).Nodup) :
    ofOverrides (overrides.filter (·.2.replaces)) = ofOverrides overrides := by
  have sameReaders :
      FieldReader.builtIn (overrides.filter (·.2.replaces)) = FieldReader.builtIn overrides := by
    funext field
    rw [FieldReader.builtIn, FieldReader.builtIn, Overrides.getD_lookup_filter oneEach]
  rw [ofOverrides, ofOverrides, sameReaders]

namespace Settings

/-! ## Reading what was written -/

theorem readField_name (key : Text) (field : Field) : readField key (.text field.name) = .ok field := by
  cases field <;> rfl

theorem readDefaultFields_names (fields : List Field) :
    readDefaultFields (some (textList (fields.map Field.name))) = .ok fields := by
  change (List.map Value.text (fields.map Field.name)).mapM (readField "search.default_fields".toList) = _
  induction fields with
  | nil => rfl
  | cons field rest ih =>
    rw [List.map_cons, List.map_cons, List.mapM_cons, readField_name, ih]
    rfl

theorem texts?_map (texts : List Text) : Value.texts? (texts.map .text) = some texts := by
  induction texts with
  | nil => rfl
  | cons text rest ih => rw [List.map_cons, Value.texts?, ih, Option.map_some]

theorem readTexts_textList (key : Text) (texts : List Text) :
    readTexts key (some (textList texts)) = .ok (some texts) := by
  rw [textList, readTexts, texts?_map]

/-- The entries of the section of an override. -/
def parts (override : Override) : List (Text × Value) :=
  partEntry "aliases" override.aliases ++ partEntry "symbols" override.symbols

theorem readTexts_aliases (key : Text) (override : Override) :
    readTexts key ((parts override).lookup "aliases".toList) = .ok override.aliases := by
  obtain ⟨aliases, symbols⟩ := override
  cases aliases with
  | some names => exact readTexts_textList key names
  | none =>
    cases symbols with
    | some spelled => rfl
    | none => rfl

theorem readTexts_symbols (key : Text) (override : Override) :
    readTexts key ((parts override).lookup "symbols".toList) = .ok override.symbols := by
  obtain ⟨aliases, symbols⟩ := override
  cases symbols with
  | some spelled =>
    cases aliases with
    | some names => exact readTexts_textList key spelled
    | none => exact readTexts_textList key spelled
  | none =>
    cases aliases with
    | some names => rfl
    | none => rfl

theorem readOverride_parts (key : Text) {override : Override} (checked : override.Checked) :
    readOverride key (.table (parts override)) = .ok override := by
  have symbolsPass : checkSpellings (key ++ ".symbols".toList) Selector.checkSymbol
      (override.symbols.getD []) = .ok () := by
    rw [checkSpellings_eq_ok_iff]
    cases given : override.symbols with
    | none => simp
    | some spelled => exact checked.symbols spelled given
  have aliasesPass : checkSpellings (key ++ ".aliases".toList) Selector.checkName
      (override.aliases.getD []) = .ok () := by
    rw [checkSpellings_eq_ok_iff]
    cases given : override.aliases with
    | none => simp
    | some names => exact checked.aliases names given
  simp only [readOverride, readTexts_aliases, readTexts_symbols, bind, Except.bind, symbolsPass, aliasesPass]
  rfl

/-- The section of an override. -/
def sectionOf (entry : Field × Override) : Text × Value :=
  (entry.1.name, .table (parts entry.2))

theorem filterMap_overrideEntry? (overrides : Overrides) :
    overrides.filterMap overrideEntry? = (overrides.filter (·.2.replaces)).map sectionOf := by
  have entryEq : ∀ entry, overrideEntry? entry = if entry.2.replaces then some (sectionOf entry) else none := by
    rintro ⟨field, ⟨aliases, symbols⟩⟩
    cases aliases <;> cases symbols <;> rfl
  induction overrides with
  | nil => rfl
  | cons entry rest ih =>
    cases effect : entry.2.replaces with
    | false =>
      rw [List.filterMap_cons_none (by rw [entryEq, effect]; rfl), List.filter_cons_of_neg (by simp [effect]), ih]
    | true =>
      rw [List.filterMap_cons_some (by rw [entryEq, effect]; rfl), List.filter_cons_of_pos (by exact effect), ih,
        List.map_cons]

/-- Reading the sections of overrides puts these behind the ones that were there. -/
theorem readSections_written {before overrides : Overrides}
    (oneEach : ((before ++ overrides).map (·.1)).Nodup) (checked : ∀ entry ∈ overrides, entry.2.Checked) :
    readSections before (overrides.map sectionOf) = .ok (before ++ overrides) := by
  induction overrides generalizing before with
  | nil => rw [List.map_nil, readSections, List.append_nil]
  | cons entry rest ih =>
    obtain ⟨field, override⟩ := entry
    obtain ⟨firstChecked, restChecked⟩ := List.forall_mem_cons.1 checked
    have fresh : field ∉ before.map (·.1) := by
      rw [List.map_append, List.map_cons] at oneEach
      intro member
      exact (List.nodup_append.1 oneEach).2.2 field member field List.mem_cons_self rfl
    rw [List.map_cons, sectionOf, readSections, readOverride_parts _ firstChecked]
    change (readField _ _ >>= fun field => _) = _
    rw [readField_name]
    change readSections (before.put field override) _ = _
    rw [Overrides.put_of_not_mem override fresh, ih (by simpa using oneEach) restChecked,
      List.append_assoc, List.singleton_append]

theorem readOverrides_written {settings : Settings} (oneEach : (settings.overrides.map (·.1)).Nodup)
    (checked : ∀ entry ∈ settings.overrides, entry.2.Checked) :
    readOverrides (settings.toDocument.lookup "selectors".toList) =
      .ok (settings.overrides.filter (·.2.replaces)) := by
  have sections := @readSections_written [] _ (Overrides.oneEach_filter oneEach)
    fun entry member => checked entry (List.mem_of_mem_filter member)
  rw [← filterMap_overrideEntry?] at sections
  rw [toDocument]
  cases written : settings.overrides.filterMap overrideEntry? with
  | nil =>
    rw [written] at sections
    exact sections
  | cons first rest =>
    rw [written] at sections
    exact sections

/-- Saved settings are read back as they were, without the overrides that replace nothing. -/
theorem ofDocument_toDocument {settings : Settings} (oneEach : (settings.overrides.map (·.1)).Nodup)
    (checked : ∀ entry ∈ settings.overrides, entry.2.Checked) (path : Option Path) :
    ofDocument path settings.toDocument =
      .ok { settings with overrides := settings.overrides.filter (·.2.replaces), path } := by
  have fieldsEntry : entry? "default_fields" (settings.toDocument.lookup "search".toList) =
      .ok (some (textList (settings.defaultFields.map Field.name))) := rfl
  have coloredEntry : entry? "colored_output" (settings.toDocument.lookup "display".toList) =
      .ok (some (.bool settings.coloredOutput)) := rfl
  simp only [ofDocument, fieldsEntry, coloredEntry, readOverrides_written oneEach checked,
    readDefaultFields_names, bind, Except.bind]
  rfl

/-! ## Documents -/

theorem name_injective : Function.Injective Field.name := by
  intro field other same
  have read := readField_name [] field
  rw [same, readField_name] at read
  exact (Except.ok.inj read).symm

theorem isBare_name (field : Field) : Toml.IsBare field.name := by
  cases field <;> exact ⟨by decide, by decide⟩

theorem areLines_singleton {key : Text} {v : Value} (isBare : Toml.IsBare key) (plain : Toml.IsPlain v) :
    Toml.AreLines [(key, v)] :=
  ⟨List.forall_mem_singleton.2 isBare, List.forall_mem_singleton.2 plain, List.nodup_singleton _⟩

theorem areLines_parts (override : Override) : Toml.AreLines (parts override) := by
  have aliasesBare : Toml.IsBare "aliases".toList := ⟨by decide, by decide⟩
  have symbolsBare : Toml.IsBare "symbols".toList := ⟨by decide, by decide⟩
  obtain ⟨aliases, symbols⟩ := override
  cases aliases with
  | none =>
    cases symbols with
    | none => exact ⟨List.forall_mem_nil _, List.forall_mem_nil _, List.nodup_nil⟩
    | some spelled => exact areLines_singleton symbolsBare (.texts spelled)
  | some names =>
    cases symbols with
    | none => exact areLines_singleton aliasesBare (.texts names)
    | some spelled =>
      refine ⟨List.forall_mem_cons.2 ⟨aliasesBare, List.forall_mem_singleton.2 symbolsBare⟩,
        List.forall_mem_cons.2 ⟨.texts names, List.forall_mem_singleton.2 (.texts spelled)⟩, ?_⟩
      change ["aliases".toList, "symbols".toList].Nodup
      decide

/-- The sections of overrides are tables of lines. -/
theorem isTidy_sections {overrides : Overrides} (oneEach : (overrides.map (·.1)).Nodup) (nonempty : overrides ≠ []) :
    Toml.IsTidy (.table (overrides.map sectionOf)) := by
  refine .tables (List.map_eq_nil_iff.not.2 nonempty) ?_ ?_ ?_
  · rw [List.forall_mem_map]
    exact fun entry _ => isBare_name entry.1
  · have names : (overrides.map sectionOf).map (·.1) = (overrides.map (·.1)).map Field.name := by
      rw [List.map_map, List.map_map]
      rfl
    rw [names]
    exact List.Nodup.map name_injective oneEach
  · rw [List.forall_mem_map]
    exact fun entry _ => .lines (areLines_parts entry.2)

/-- The document of settings is read back from its text. -/
theorem read_write_toDocument {settings : Settings} (oneEach : (settings.overrides.map (·.1)).Nodup) :
    Toml.read (Toml.write settings.toDocument) = .ok settings.toDocument := by
  have searchTidy : Toml.IsTidy
      (.table [("default_fields".toList, textList (settings.defaultFields.map Field.name))]) :=
    .lines (areLines_singleton ⟨by decide, by decide⟩ (.texts _))
  have displayTidy : Toml.IsTidy (.table [("colored_output".toList, .bool settings.coloredOutput)]) :=
    .lines (areLines_singleton ⟨by decide, by decide⟩ (.bool _))
  have searchBare : Toml.IsBare "search".toList := ⟨by decide, by decide⟩
  have displayBare : Toml.IsBare "display".toList := ⟨by decide, by decide⟩
  rw [toDocument, filterMap_overrideEntry?]
  by_cases kept : settings.overrides.filter (·.2.replaces) = []
  · rw [kept]
    refine Toml.read_write ?_ ?_ ?_
    · exact List.forall_mem_cons.2 ⟨searchBare, List.forall_mem_singleton.2 displayBare⟩
    · change ["search".toList, "display".toList].Nodup
      decide
    · exact List.forall_mem_cons.2 ⟨searchTidy, List.forall_mem_singleton.2 displayTidy⟩
  · have sectionsTidy := isTidy_sections (Overrides.oneEach_filter oneEach) kept
    have selectorsBare : Toml.IsBare "selectors".toList := ⟨by decide, by decide⟩
    rw [if_neg (by rw [List.isEmpty_map, List.isEmpty_iff]; exact kept)]
    refine Toml.read_write ?_ ?_ ?_
    · exact List.forall_mem_cons.2
        ⟨searchBare, List.forall_mem_cons.2 ⟨displayBare, List.forall_mem_singleton.2 selectorsBare⟩⟩
    · change ["search".toList, "display".toList, "selectors".toList].Nodup
      decide
    · exact List.forall_mem_cons.2
        ⟨searchTidy, List.forall_mem_cons.2 ⟨displayTidy, List.forall_mem_singleton.2 sectionsTidy⟩⟩

/-! ## Files -/

theorem save_eq_ok {store saved : Store} {place : Place} {settings : Settings} {given : Option Path}
    {target : Path} (success : save store place settings given = .ok (saved, target)) :
    saved.find target =
      .ok (.file (String.ofList (Toml.write settings.toDocument)).toUTF8) := by
  rw [save] at success
  generalize placed : store.place _ _ = outcome at success
  obtain ⟨written, changed⟩ := outcome
  cases written with
  | error fault => cases success
  | ok done =>
    cases success
    exact Store.find_of_place placed

theorem fromUTF8?_toUTF8 (s : String) : String.fromUTF8? s.toUTF8 = some s :=
  dif_pos s.isValidUTF8

/-- A file that holds a written document is loaded as the settings of that document. -/
theorem loadAt_of_written {store : Store} {path : Path} {document : List (Text × Value)} {settings : Settings}
    {warnings : List Text}
    (found : store.find path = .ok (.file (String.ofList (Toml.write document)).toUTF8))
    (readBack : Toml.read (Toml.write document) = .ok document)
    (read : ofDocument (some path) document = .ok settings) (valid : settings.validate = .ok warnings) :
    loadAt store path = .ok (settings, warnings) := by
  have content : store.read path = .ok (String.ofList (Toml.write document)).toUTF8 := by
    rw [Store.read, found]
  have ofContent : ofContent path (String.ofList (Toml.write document)).toUTF8 = .ok settings := by
    rw [ofContent, fromUTF8?_toUTF8]
    simp only [String.toList_ofList, readBack, read]
    rfl
  rw [loadAt, Store.contains, found]
  simp only [content, ofContent, valid, Except.mapError, bind, Except.bind]
  rfl

/-- The document of saved settings reads as settings with the same fields, the same choice of colour and the same
overrides but for those that replace nothing, so that the registry and every compiled search string are the same.
Loading the saved file gives these settings. -/
theorem reload_of_saved {settings : Settings} (nonempty : settings.defaultFields ≠ [])
    (oneEach : (settings.overrides.map (·.1)).Nodup)
    (checked : ∀ entry ∈ settings.overrides, entry.2.Checked) (path : Option Path) :
    ∃ reloaded, ofDocument path settings.toDocument = .ok reloaded ∧
      reloaded.validate = .ok settings.warnings ∧
      reloaded.defaultFields = settings.defaultFields ∧
      reloaded.coloredOutput = settings.coloredOutput ∧
      reloaded.overrides = settings.overrides.filter (·.2.replaces) ∧
      reloaded.registry = settings.registry ∧
      (∀ query, reloaded.compiler.map (·.compile query) = settings.compiler.map (·.compile query)) ∧
      ∀ store place given saved target, save store place settings given = .ok (saved, target) →
        loadAt saved target = .ok ({ reloaded with path := some target }, settings.warnings) := by
  have sameRegistry := Registry.ofOverrides_filter oneEach
  have valid (path : Option Path) :
      validate { settings with overrides := settings.overrides.filter (·.2.replaces), path } =
        .ok settings.warnings := by
    rw [validate, if_neg nonempty]
    rfl
  refine ⟨_, ofDocument_toDocument oneEach checked path, valid path, rfl, rfl, rfl, sameRegistry, ?_, ?_⟩
  · intro query
    rw [compiler, compiler, registry, registry, sameRegistry]
  · intro store place given saved target success
    exact loadAt_of_written (save_eq_ok success) (read_write_toDocument oneEach)
      (ofDocument_toDocument oneEach checked (some target)) (valid (some target))

/-- Repeated fields, an empty list of aliases, a name that folding changes and an override that replaces nothing. -/
theorem reload_of_saved_mixed_overrides :
    let settings : Settings :=
      { defaultFields := [.title, .duration, .title]
        overrides := [(.channel, ⟨some [], some ["%".toList]⟩), (.topic, ⟨none, none⟩),
          (.duration, ⟨some ["Größe".toList], none⟩)]
        coloredOutput := false }
    settings.defaultFields ≠ [] ∧ (settings.overrides.map (·.1)).Nodup ∧
      (∀ entry ∈ settings.overrides, entry.2.Checked) ∧
      ∃ reloaded, ofDocument none settings.toDocument = .ok reloaded ∧
        reloaded.defaultFields = [.title, .duration, .title] ∧ reloaded.coloredOutput = false ∧
        reloaded.overrides = [(.channel, ⟨some [], some ["%".toList]⟩),
          (.duration, ⟨some ["Größe".toList], none⟩)] ∧
        reloaded.registry = settings.registry := by
  intro settings
  have nonempty : settings.defaultFields ≠ [] := by decide
  have oneEach : (settings.overrides.map (·.1)).Nodup := by decide
  have checked : ∀ entry ∈ settings.overrides, entry.2.Checked := by
    simp only [settings, List.forall_mem_cons]
    refine ⟨⟨?_, ?_⟩, ⟨nofun, nofun⟩, ⟨?_, nofun⟩, nofun⟩
    · rintro names ⟨⟩
      simp
    · rintro spelled ⟨⟩
      exact List.forall_mem_singleton.2 ⟨'%', rfl⟩
    · rintro names ⟨⟩
      exact List.forall_mem_singleton.2 ⟨_, rfl⟩
  obtain ⟨reloaded, read, -, fields, colored, overrides, registry, -⟩ :=
    reload_of_saved nonempty oneEach checked none
  exact ⟨nonempty, oneEach, checked, reloaded, read, fields, colored, overrides, registry⟩

end Settings

end SearchQuery
