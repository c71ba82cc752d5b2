import Mathlib.Data.List.Infix
import SearchQuery.Proofs.Outcome
import SearchQuery.Settings.Document

/-!
# Refused settings

Whatever a document holds, its settings are accepted, or refused with a report that names the entry at fault; the one
exception is a section `search` or `display` of a kind that cannot be asked for its entry.  Those two sections, unlike
`selectors`, are not required to be tables.  The exception is stated as a condition on the document, and it is exact.
-/

set_option autoImplicit false

namespace SearchQuery.Settings

/-- The settings of a document, once they are valid, with their warnings. -/
def validated (path : Option Path) (document : List (Text × Value)) :
    Except SettingsFault (Settings × List Text) := do
  let settings ← ofDocument path document
  let warnings ← settings.validate
  return (settings, warnings)

/-! ## Outcomes that report -/

/-- If an outcome is a fault, then one that names one of some keys. -/
def Reports {α : Type} (keys : List Text) (outcome : Except SettingsFault α) : Prop :=
  ∀ fault, outcome = .error fault → ∃ key ∈ keys, ∃ value reason, fault = .invalid key value reason

namespace Reports

variable {α β : Type} {keys : List Text}

theorem ok (value : α) : Reports keys (.ok value) :=
  fun _ failure => nomatch failure

theorem invalid {key : Text} (listed : key ∈ keys) (value : Value) (reason : SettingReason) :
    Reports (α := α) keys (.error (.invalid key value reason)) := by
  intro fault failure
  cases failure
  exact ⟨key, listed, value, reason, rfl⟩

theorem mono {more : List Text} {outcome : Except SettingsFault α} (reports : Reports keys outcome)
    (included : keys ⊆ more) : Reports more outcome := by
  intro fault failure
  obtain ⟨key, listed, rest⟩ := reports fault failure
  exact ⟨key, included listed, rest⟩

theorem bind {outcome : Except SettingsFault α} {next : α → Except SettingsFault β}
    (first : Reports keys outcome) (later : ∀ value, outcome = .ok value → Reports keys (next value)) :
    Reports keys (outcome >>= next) := by
  cases outcome with
  | error found =>
    intro fault failure
    cases failure
    exact first found rfl
  | ok value => exact later value rfl

theorem mapM {f : α → Except SettingsFault β} (each : ∀ item, Reports keys (f item)) (items : List α) :
    Reports keys (items.mapM f) := by
  intro fault failure
  obtain ⟨before, item, after, -, -, failed⟩ := Outcome.mapM_eq_error_iff.1 failure
  exact each item fault failed

/-- An outcome that reports is a success or a report. -/
theorem ok_or_invalid {outcome : Except SettingsFault α} (reports : Reports keys outcome) :
    (∃ value, outcome = .ok value) ∨
      ∃ key ∈ keys, ∃ value reason, outcome = .error (.invalid key value reason) := by
  cases outcome with
  | ok value => exact .inl ⟨value, rfl⟩
  | error fault =>
    obtain ⟨key, listed, value, reason, rfl⟩ := reports fault rfl
    exact .inr ⟨key, listed, value, reason, rfl⟩

end Reports

/-! ## Reading entries -/

theorem reports_readField (key : Text) (value : Value) : Reports [key] (readField key value) := by
  rw [readField.eq_def]
  split
  · split
    · exact .ok _
    · exact .invalid List.mem_cons_self _ _
  · exact .invalid List.mem_cons_self _ _

theorem reports_readDefaultFields (entry : Option Value) :
    Reports ["search.default_fields".toList] (readDefaultFields entry) := by
  rw [readDefaultFields.eq_def]
  split
  · exact .ok _
  · exact .mapM (reports_readField _) _
  · exact .invalid List.mem_cons_self _ _

theorem reports_readColoredOutput (entry : Option Value) :
    Reports ["display.colored_output".toList] (readColoredOutput entry) := by
  rw [readColoredOutput.eq_def]
  split
  · exact .ok _
  · exact .ok _
  · exact .invalid List.mem_cons_self _ _

theorem reports_readTexts (key : Text) (entry : Option Value) : Reports [key] (readTexts key entry) := by
  rw [readTexts.eq_def]
  split
  · exact .ok _
  · split
    · exact .ok _
    · exact .invalid List.mem_cons_self _ _
  · exact .invalid List.mem_cons_self _ _

theorem reports_checkSpellings {α : Type} (key : Text) (check : Text → Except SpellingFault α)
    (spellings : List Text) : Reports [key] (checkSpellings key check spellings) := by
  induction spellings with
  | nil => exact .ok _
  | cons spelling rest ih =>
    rw [checkSpellings]
    split
    · exact .invalid List.mem_cons_self _ _
    · exact ih

/-- The keys of a section and of its entries. -/
def sectionKeys (key : Text) : List Text :=
  [key, key ++ ".aliases", key ++ ".symbols"]

theorem reports_readOverride (key : Text) (section_ : Value) :
    Reports (sectionKeys key) (readOverride key section_) := by
  have aliasesKey : [key ++ ".aliases"] ⊆ sectionKeys key := by simp [sectionKeys]
  have symbolsKey : [key ++ ".symbols"] ⊆ sectionKeys key := by simp [sectionKeys]
  rw [readOverride.eq_def]
  split
  · refine ((reports_readTexts _ _).mono aliasesKey).bind fun aliases _ => ?_
    refine ((reports_readTexts _ _).mono symbolsKey).bind fun symbols _ => ?_
    refine ((reports_checkSpellings _ _ _).mono symbolsKey).bind fun _ _ => ?_
    refine ((reports_checkSpellings _ _ _).mono aliasesKey).bind fun _ _ => ?_
    exact .ok _
  · exact .invalid List.mem_cons_self _ _

/-- The keys of all sections that override selectors. -/
def sectionsKeys (sections : List (Text × Value)) : List Text :=
  sections.flatMap fun entry => sectionKeys ("selectors." ++ entry.1)

theorem reports_readSections (overrides : Overrides) (sections : List (Text × Value)) :
    Reports (sectionsKeys sections) (readSections overrides sections) := by
  induction sections generalizing overrides with
  | nil => exact .ok _
  | cons first rest ih =>
    obtain ⟨name, section_⟩ := first
    have own : sectionKeys ("selectors." ++ name) ⊆ sectionsKeys ((name, section_) :: rest) :=
      List.subset_append_left _ _
    have ownName : [("selectors." : Text) ++ name] ⊆ sectionsKeys ((name, section_) :: rest) :=
      List.cons_subset.2 ⟨own List.mem_cons_self, List.nil_subset _⟩
    rw [readSections]
    refine ((reports_readOverride _ _).mono own).bind fun override _ => ?_
    refine ((reports_readField _ _).mono ownName).bind fun field _ => ?_
    exact (ih _).mono (List.subset_append_right _ _)

def overridesKeys : Option Value → List Text
  | some (.table sections) => "selectors".toList :: sectionsKeys sections
  | _ => ["selectors".toList]

theorem reports_readOverrides (entry : Option Value) : Reports (overridesKeys entry) (readOverrides entry) := by
  cases entry with
  | none => exact .ok _
  | some value =>
    cases value with
    | table sections => exact (reports_readSections [] sections).mono (List.subset_cons_self _ _)
    | _ => exact .invalid List.mem_cons_self _ _

theorem reports_validate (settings : Settings) :
    Reports ["search.default_fields".toList] settings.validate := by
  rw [validate]
  split
  · exact .invalid List.mem_cons_self _ _
  · exact .ok _

/-! ## Sections that cannot be asked -/

/-- A section that cannot be asked for an entry: it is there and no table, and the key occurs in it if it is a text or a
list. -/
def Unusable (key : Text) : Option Value → Prop
  | none | some (.table _) => False
  | some (.text s) => key <:+: s
  | some (.list items) => .text key ∈ items
  | some _ => True

/-- The entry that a section has if it is a table. -/
def tableEntry (key : Text) : Option Value → Option Value
  | some (.table entries) => entries.lookup key
  | _ => none

theorem occursIn_iff {part s : Text} : Text.occursIn part s = true ↔ part <:+: s := by
  induction s with
  | nil => rw [Text.occursIn, List.isEmpty_iff, List.infix_nil]
  | cons c rest ih =>
    rw [Text.occursIn, Bool.or_eq_true, List.isPrefixOf_iff_prefix, ih, List.infix_cons_iff]

theorem entry?_of_unusable {key : Text} {section_ : Option Value} (unusable : Unusable key section_) :
    entry? key section_ = .error .unusableSection := by
  rw [Unusable.eq_def] at unusable
  split at unusable
  · cases unusable
  · cases unusable
  · rw [ entry?, if_pos (occursIn_iff.2 unusable)]
  · rw [ entry?, if_pos]
    exact List.any_eq_true.2 ⟨_, unusable, decide_eq_true rfl⟩
  next value notTable notText notList =>
    cases value with
    | table entries => exact absurd rfl (notTable entries)
    | text s => exact absurd rfl (notText s)
    | list items => exact absurd rfl (notList items)
    | _ => rfl

theorem entry?_of_usable {key : Text} {section_ : Option Value} (usable : ¬Unusable key section_) :
    entry? key section_ = .ok (tableEntry key section_) := by
  cases section_ with
  | none => rfl
  | some value =>
    cases value with
    | table entries => rfl
    | text s =>
      have absent : ¬Text.occursIn key s = true := fun occurs => usable (occursIn_iff.1 occurs)
      rw [ entry?, if_neg absent, tableEntry]
      nofun
    | list items =>
      rw [ entry?, if_neg, tableEntry]
      · nofun
      · intro occurs
        obtain ⟨item, member, same⟩ := List.any_eq_true.1 occurs
        cases item with
        | text s =>
          cases of_decide_eq_true same
          exact usable member
        | _ => cases same
    | _ => exact absurd trivial usable

/-- An entry that is not there, or a list of names of fields. -/
def NamesFields (entry : Option Value) : Prop :=
  ∀ value ∈ entry, ∃ items, value = .list items ∧
    ∀ item ∈ items, ∃ name field, item = .text name ∧ Field.ofAnyCase? name = some field

theorem readField_eq_ok_iff {key : Text} {value : Value} {field : Field} :
    readField key value = .ok field ↔ ∃ name, value = .text name ∧ Field.ofAnyCase? name = some field := by
  cases value with
  | text s =>
    rw [readField]
    cases found : Field.ofAnyCase? s <;> simp [found]
  | _ => simp [readField]

theorem exists_readDefaultFields_iff {entry : Option Value} :
    (∃ fields, readDefaultFields entry = .ok fields) ↔ NamesFields entry := by
  cases entry with
  | none => simp [readDefaultFields, NamesFields]
  | some value =>
    cases value with
    | list items =>
      constructor
      · rintro ⟨fields, success⟩ _ ⟨⟩
        refine ⟨items, rfl, fun item member => ?_⟩
        obtain ⟨field, -, found⟩ := Outcome.mem_of_mapM_eq_ok success member
        obtain ⟨name, named⟩ := readField_eq_ok_iff.1 found
        exact ⟨name, field, named⟩
      · intro names
        obtain ⟨_, ⟨⟩, each⟩ := names _ rfl
        refine Outcome.exists_mapM_eq_ok fun item member => ?_
        obtain ⟨name, field, named⟩ := each item member
        exact ⟨field, readField_eq_ok_iff.2 ⟨name, named⟩⟩
    | _ => simp [readDefaultFields, NamesFields]

/-- A document with a section that cannot be asked for its entry, the entries before it being in order. -/
def BreaksDown (document : List (Text × Value)) : Prop :=
  Unusable "default_fields" (document.lookup "search".toList) ∨
    NamesFields (tableEntry "default_fields" (document.lookup "search".toList)) ∧
      Unusable "colored_output" (document.lookup "display".toList)

/-! ## Documents -/

/-- The keys of the entries that settings are made of. -/
def settingKeys (document : List (Text × Value)) : List Text :=
  "search.default_fields".toList :: "display.colored_output".toList ::
    overridesKeys (document.lookup "selectors".toList)

theorem fieldsKey_subset (document : List (Text × Value)) :
    ["search.default_fields".toList] ⊆ settingKeys document :=
  List.cons_subset.2 ⟨List.mem_cons_self, List.nil_subset _⟩

theorem ofDocument_of_breaksDown {document : List (Text × Value)} (breaks : BreaksDown document)
    (path : Option Path) : ofDocument path document = .error .unusableSection := by
  by_cases searchUnusable : Unusable "default_fields" (document.lookup "search".toList)
  · rw [ofDocument, entry?_of_unusable searchUnusable]
    rfl
  · obtain ⟨named, displayUnusable⟩ := breaks.resolve_left searchUnusable
    obtain ⟨fields, fieldsRead⟩ := exists_readDefaultFields_iff.2 named
    rw [ofDocument, entry?_of_usable searchUnusable, entry?_of_unusable displayUnusable]
    change (readDefaultFields _).bind _ = _
    rw [fieldsRead]
    rfl

theorem reports_ofDocument {document : List (Text × Value)} (usable : ¬BreaksDown document)
    (path : Option Path) : Reports (settingKeys document) (ofDocument path document) := by
  obtain ⟨searchUsable, displayUsable⟩ := not_or.1 usable
  have coloredKey : ["display.colored_output".toList] ⊆ settingKeys document := by simp [settingKeys]
  have overridesKey : overridesKeys (document.lookup "selectors".toList) ⊆ settingKeys document :=
    fun key listed => List.mem_cons_of_mem _ (List.mem_cons_of_mem _ listed)
  rw [ofDocument, entry?_of_usable searchUsable]
  refine Reports.bind (.ok _) fun entry isEntry => ?_
  cases isEntry
  refine ((reports_readDefaultFields _).mono (fieldsKey_subset document)).bind fun fields fieldsRead => ?_
  -- the second section is asked only if the first one is in order
  have usableDisplay : ¬Unusable "colored_output" (document.lookup "display".toList) :=
    fun unusable => displayUsable ⟨exists_readDefaultFields_iff.1 ⟨fields, fieldsRead⟩, unusable⟩
  rw [entry?_of_usable usableDisplay]
  refine Reports.bind (.ok _) fun entry _ => ?_
  refine ((reports_readColoredOutput _).mono coloredKey).bind fun colored _ => ?_
  refine ((reports_readOverrides _).mono overridesKey).bind fun overrides _ => ?_
  exact .ok _

/-- A document breaks down where a section cannot be asked for its entry, and only there.  Any other document
gives valid settings, or it is refused with a report that names one of the entries settings are made of. -/
theorem validated_reports (path : Option Path) (document : List (Text × Value)) :
    BreaksDown document ∧ validated path document = .error .unusableSection ∨
      ¬BreaksDown document ∧
        ((∃ settings warnings, validated path document = .ok (settings, warnings)) ∨
          ∃ key ∈ settingKeys document, ∃ value reason,
            validated path document = .error (.invalid key value reason)) := by
  by_cases breaks : BreaksDown document
  · refine .inl ⟨breaks, ?_⟩
    rw [validated, ofDocument_of_breaksDown breaks]
    rfl
  · refine .inr ⟨breaks, ?_⟩
    have reports : Reports (settingKeys document) (validated path document) := by
      refine (reports_ofDocument breaks path).bind fun settings _ => ?_
      refine ((reports_validate settings).mono (fieldsKey_subset document)).bind fun warnings _ => ?_
      exact .ok _
    rcases reports.ok_or_invalid with ⟨⟨settings, warnings⟩, success⟩ | report
    · exact .inl ⟨settings, warnings, success⟩
    · exact .inr report

/-- A number in the place of a section is not reported. -/
theorem not_validated_reports_always :
    ¬∀ (path : Option Path) (document : List (Text × Value)),
      (∃ settings warnings, validated path document = .ok (settings, warnings)) ∨
        ∃ key value reason, validated path document = .error (.invalid key value reason) := by
  intro claimed
  have breaksDown : validated none [("search".toList, .integer 5)] = .error .unusableSection := rfl
  rcases claimed none [("search".toList, .integer 5)] with ⟨_, _, success⟩ | ⟨_, _, _, report⟩
  · cases breaksDown.symm.trans success
  · cases breaksDown.symm.trans report

end SearchQuery.Settings
