import SearchQuery.Proofs.Compile.Complaints
import SearchQuery.Proofs.Selector.Overlap
import SearchQuery.Settings.File

/-!
# Usable settings

Spellings are checked when settings are read, and again whenever a rule is made of them, by then perhaps in folded
form.  Since a folded selector is a selector, the later checks find nothing that the first ones let through: settings
that load give a compiler, unless their overrides make two fields overlap.
-/

set_option autoImplicit false

namespace SearchQuery

open SearchQuery.Text SearchQuery.Selector

/-! ## Folded selectors -/

/-- A selector is one in folded form as well. -/
theorem Selector.Typeable.fold {name : Text} (typeable : Typeable name) : Typeable (fold name) := by
  have plain : ∀ d ∈ Text.fold name, isReserved d = false := by
    intro d member
    obtain ⟨c, inName, inImage⟩ := List.mem_flatMap.1 member
    by_contra meaning
    have same := eq_of_mem_foldChar inImage (.inl (Bool.not_eq_false _ ▸ meaning))
    rw [same] at meaning
    exact meaning (typeable.plain c inName)
  refine ⟨fold_ne_nil typeable.nonempty, ?_, plain⟩
  obtain ⟨c, rest, rfl⟩ := List.exists_cons_of_ne_nil typeable.nonempty
  intro dashed
  rw [fold_cons, List.head?_append_of_ne_nil _ (foldChar_ne_nil c)] at dashed
  have same := eq_of_mem_foldChar (List.mem_of_mem_head? dashed) (.inr rfl)
  exact typeable.noDash (by rw [← same]; rfl)

theorem Selector.IsName.typeable {name : Text} (isName : IsName name) : Typeable name := by
  obtain ⟨typed, checked⟩ := isName
  obtain ⟨typeable, rfl⟩ := checkName_eq_ok_iff.1 checked
  exact typeable.fold

/-! ## Overridden rules -/

/-- The replacements of an override pass the checks of names and symbols. -/
structure Override.Checked (override : Override) : Prop where
  aliases : ∀ names ∈ override.aliases, ∀ name ∈ names, ∃ folded, checkName name = .ok folded
  symbols : ∀ symbols ∈ override.symbols, ∀ symbol ∈ symbols, ∃ c, checkSymbol symbol = .ok c

namespace Rule

theorem exists_make {canonical : Text} {aliases symbols : List Text} (typeable : Typeable canonical)
    (namesPass : ∀ name ∈ aliases, ∃ folded, checkName name = .ok folded)
    (symbolsPass : ∀ symbol ∈ symbols, ∃ c, checkSymbol symbol = .ok c) :
    ∃ rule, make canonical aliases symbols = .ok rule := by
  have canonicalChecked := checkName_eq_ok_iff.2 ⟨typeable, rfl⟩
  obtain ⟨names, namesChecked⟩ := Outcome.exists_mapM_eq_ok namesPass
  obtain ⟨characters, symbolsChecked⟩ := Outcome.exists_mapM_eq_ok symbolsPass
  rw [make]
  split
  next fault failed => cases canonicalChecked.symm.trans failed
  next fault failed _ => cases namesChecked.symm.trans failed
  next fault failed _ _ => cases symbolsChecked.symm.trans failed
  next => exact ⟨_, rfl⟩

theorem checkSymbol_of_listed {rule : Rule} {symbol : Text} (listed : symbol ∈ rule.symbols.map ([·])) :
    ∃ c, checkSymbol symbol = .ok c := by
  obtain ⟨c, member, rfl⟩ := List.mem_map.1 listed
  exact ⟨c, checkSymbol_eq_ok_iff.2 ⟨rfl, rule.symbolsChecked c member⟩⟩

theorem checkName_of_listed {rule : Rule} {name : Text} (listed : name ∈ rule.names) :
    ∃ folded, checkName name = .ok folded :=
  ⟨_, checkName_eq_ok_iff.2 ⟨(rule.namesChecked name listed).typeable, rfl⟩⟩

theorem exists_override (rule : Rule) {override : Override} (checked : override.Checked) :
    ∃ changed, rule.override override = .ok changed := by
  have canonicalTypeable : ∀ rule : Rule, Typeable rule.canonical := fun rule =>
    (rule.namesChecked rule.canonical List.mem_cons_self).typeable
  have aliasesReplaced : ∃ changed, rule.replaceAliases override.aliases = .ok changed := by
    cases given : override.aliases with
    | none => exact ⟨rule, rfl⟩
    | some names =>
      exact exists_make (canonicalTypeable rule) (checked.aliases names given) fun symbol =>
        checkSymbol_of_listed
  obtain ⟨changed, aliasesEquation⟩ := aliasesReplaced
  have symbolsReplaced : ∃ result, changed.replaceSymbols override.symbols = .ok result := by
    cases given : override.symbols with
    | none => exact ⟨changed, rfl⟩
    | some symbols =>
      refine exists_make (canonicalTypeable changed) ?_ (checked.symbols symbols given)
      intro name listed
      exact checkName_of_listed (List.mem_cons_of_mem _ listed)
  obtain ⟨result, symbolsEquation⟩ := symbolsReplaced
  refine ⟨result, ?_⟩
  rw [Rule.override, aliasesEquation]
  exact symbolsEquation

end Rule

theorem FieldReader.exists_builtIn {overrides : Overrides} (checked : ∀ entry ∈ overrides, entry.2.Checked)
    (field : Field) : ∃ reader, builtIn overrides field = .ok reader := by
  have given : ((overrides.lookup field).getD ⟨none, none⟩).Checked := by
    cases found : overrides.lookup field with
    | none => exact ⟨nofun, nofun⟩
    | some override =>
      obtain ⟨before, after, listed, -⟩ := List.lookup_eq_some_iff.1 found
      exact checked (field, override) (by simp [listed])
  obtain ⟨rule, success⟩ := field.defaultRule.exists_override given
  refine ⟨⟨field, rule, field.defaultKind⟩, ?_⟩
  rw [builtIn, success]
  rfl

/-- Overrides of checked spellings give a registry, unless two fields conflict. -/
theorem Registry.ofOverrides_of_checked {overrides : Overrides}
    (checked : ∀ entry ∈ overrides, entry.2.Checked) :
    (∃ registry, ofOverrides overrides = .ok registry) ∨
      ∃ conflict, ofOverrides overrides = .error (.conflict conflict) := by
  obtain ⟨readers, success⟩ : ∃ readers, Field.all.mapM (FieldReader.builtIn overrides) = .ok readers :=
    Outcome.exists_mapM_eq_ok fun field _ => FieldReader.exists_builtIn checked field
  rw [ofOverrides, success]
  change (∃ registry, (Registry.make readers).mapError RegistryError.conflict = .ok registry) ∨
    ∃ conflict, (Registry.make readers).mapError RegistryError.conflict = .error (.conflict conflict)
  cases Registry.make readers with
  | ok registry => exact .inl ⟨registry, rfl⟩
  | error conflict => exact .inr ⟨conflict, rfl⟩

namespace Settings

/-- What loading makes sure of. -/
structure Usable (settings : Settings) : Prop where
  fields : settings.defaultFields ≠ []
  overrides : ∀ entry ∈ settings.overrides, entry.2.Checked

theorem validate_eq_ok {settings : Settings} {warnings : List Text}
    (success : settings.validate = .ok warnings) : settings.defaultFields ≠ [] := by
  rw [validate] at success
  split at success
  next => cases success
  next nonempty => exact nonempty

theorem checkSpellings_eq_ok_iff {α : Type} {key : Text} {check : Text → Except SpellingFault α}
    {spellings : List Text} :
    checkSpellings key check spellings = .ok () ↔
      ∀ spelling ∈ spellings, ∃ result, check spelling = .ok result := by
  induction spellings with
  | nil => simp [checkSpellings]
  | cons spelling rest ih =>
    rw [checkSpellings, List.forall_mem_cons]
    cases check spelling with
    | error fault => simp
    | ok result => simp [ih]

theorem checked_of_readOverride {key : Text} {section_ : Value} {override : Override}
    (success : readOverride key section_ = .ok override) : override.Checked := by
  cases section_ with
  | table entries =>
    rw [readOverride] at success
    obtain ⟨aliases, -, success⟩ := Outcome.bind_eq_ok success
    obtain ⟨symbols, -, success⟩ := Outcome.bind_eq_ok success
    obtain ⟨⟨⟩, symbolsPass, success⟩ := Outcome.bind_eq_ok success
    obtain ⟨⟨⟩, aliasesPass, success⟩ := Outcome.bind_eq_ok success
    cases success
    constructor
    · rintro names rfl
      exact checkSpellings_eq_ok_iff.1 aliasesPass
    · rintro spelled rfl
      exact checkSpellings_eq_ok_iff.1 symbolsPass
  | _ => cases success

theorem mem_put {field : Field} {override : Override} {overrides : Overrides} {entry : Field × Override}
    (member : entry ∈ overrides.put field override) : entry = (field, override) ∨ entry ∈ overrides := by
  induction overrides with
  | nil => exact .inl (List.mem_singleton.1 member)
  | cons first rest ih =>
    rw [Overrides.put] at member
    split at member
    next =>
      rcases List.mem_cons.1 member with same | later
      · exact .inl same
      · exact .inr (List.mem_cons_of_mem _ later)
    next =>
      rcases List.mem_cons.1 member with same | later
      · exact .inr (same ▸ List.mem_cons_self)
      · rcases ih later with same | listed
        · exact .inl same
        · exact .inr (List.mem_cons_of_mem _ listed)

/-- Reading one section after another, only checked overrides are put down. -/
theorem checked_of_readSections {overrides result : Overrides} {sections : List (Text × Value)}
    (checked : ∀ entry ∈ overrides, entry.2.Checked)
    (success : readSections overrides sections = .ok result) : ∀ entry ∈ result, entry.2.Checked := by
  induction sections generalizing overrides with
  | nil =>
    cases success
    exact checked
  | cons first rest ih =>
    obtain ⟨name, section_⟩ := first
    rw [readSections] at success
    obtain ⟨override, overrideRead, success⟩ := Outcome.bind_eq_ok success
    obtain ⟨field, -, success⟩ := Outcome.bind_eq_ok success
    refine ih ?_ success
    intro entry member
    rcases mem_put member with rfl | listed
    · exact checked_of_readOverride overrideRead
    · exact checked entry listed

theorem usable_of_ofDocument {path : Option Path} {document : List (Text × Value)} {settings : Settings}
    {warnings : List Text} (read : ofDocument path document = .ok settings)
    (valid : settings.validate = .ok warnings) : settings.Usable := by
  refine ⟨validate_eq_ok valid, ?_⟩
  rw [ofDocument] at read
  obtain ⟨fieldsEntry, -, read⟩ := Outcome.bind_eq_ok read
  obtain ⟨fields, -, read⟩ := Outcome.bind_eq_ok read
  obtain ⟨coloredEntry, -, read⟩ := Outcome.bind_eq_ok read
  obtain ⟨colored, -, read⟩ := Outcome.bind_eq_ok read
  obtain ⟨overrides, overridesRead, read⟩ := Outcome.bind_eq_ok read
  cases read
  change ∀ entry ∈ overrides, entry.2.Checked
  cases sections : document.lookup "selectors".toList with
  | none =>
    rw [sections] at overridesRead
    cases overridesRead
    simp
  | some value =>
    rw [sections] at overridesRead
    cases value with
    | table entries => exact checked_of_readSections (by simp) overridesRead
    | _ => cases overridesRead

/-- Usable settings give a registry and a compiler of it, unless the overrides conflict. -/
theorem Usable.compiler_or_conflict {settings : Settings} (usable : settings.Usable) :
    (∃ compiler, settings.registry = .ok compiler.registry ∧ settings.compiler = .ok compiler) ∨
      ∃ conflict, settings.registry = .error (.conflict conflict) ∧
        settings.compiler = .error (.registry (.conflict conflict)) := by
  rcases Registry.ofOverrides_of_checked usable.overrides with ⟨registry, success⟩ | ⟨conflict, failure⟩
  · obtain ⟨compiler, made, rfl⟩ := Compiler.exists_make registry usable.fields
    refine .inl ⟨compiler, success, ?_⟩
    rw [Settings.compiler, Settings.registry, success]
    change (Compiler.make compiler.registry settings.defaultFields).mapError CompilerError.fields = .ok compiler
    rw [made]
    rfl
  · refine .inr ⟨conflict, failure, ?_⟩
    rw [Settings.compiler, Settings.registry, failure]
    rfl

/-- Settings that are read from a document and validated give a registry and a compiler of it; the only other
outcome is that two of the overridden rules conflict. -/
theorem compiler_of_loaded {path : Option Path} {document : List (Text × Value)} {settings : Settings}
    {warnings : List Text} (read : ofDocument path document = .ok settings)
    (valid : settings.validate = .ok warnings) :
    (∃ compiler, settings.registry = .ok compiler.registry ∧ settings.compiler = .ok compiler) ∨
      ∃ conflict, settings.registry = .error (.conflict conflict) ∧
        settings.compiler = .error (.registry (.conflict conflict)) :=
  (usable_of_ofDocument read valid).compiler_or_conflict

/-- An alias that changes when it is folded is checked a second time when the symbols are replaced as well. -/
theorem compiler_of_loaded_sharp :
    let document : List (Text × Value) :=
      [("selectors".toList, .table [("CHANNEL".toList, .table [
        ("aliases".toList, .list [.text "Straße".toList]),
        ("symbols".toList, .list [.text "%".toList])])])]
    ∃ settings, ofDocument none document = .ok settings ∧ settings.validate = .ok [] ∧
      ((∃ compiler, settings.registry = .ok compiler.registry ∧ settings.compiler = .ok compiler) ∨
        ∃ conflict, settings.registry = .error (.conflict conflict) ∧
          settings.compiler = .error (.registry (.conflict conflict))) := by
  intro document
  let settings : Settings :=
    { overrides := [(.channel, ⟨some ["Straße".toList], some ["%".toList]⟩)] }
  have read : ofDocument none document = .ok settings := rfl
  have valid : settings.validate = .ok [] := rfl
  exact ⟨settings, read, valid, compiler_of_loaded read valid⟩

end Settings

end SearchQuery
