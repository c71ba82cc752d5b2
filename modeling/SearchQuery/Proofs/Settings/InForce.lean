import SearchQuery.Proofs.Settings.Usable

/-!
# Selectors in force

An override replaces the aliases or the symbols of a field, or both, and leaves the rest in force.  Names and symbols
pass their checks again whenever a part is replaced, which changes nothing about them.  A field is designated by
exactly the spellings in force for it, no two fields of a registry share one, and overrides are refused only for a token
that two fields would share.
-/

set_option autoImplicit false

namespace SearchQuery

open SearchQuery.Text SearchQuery.Selector

/-! ## Spellings of overridden rules -/

namespace Rule

/-- Checking names folds them. -/
theorem mapM_checkName_eq_ok {names folded : List Text} (checked : names.mapM checkName = .ok folded) :
    folded = names.map fold := by
  have steps := Outcome.mapM_eq_ok_iff.1 checked
  clear checked
  induction steps with
  | nil => rfl
  | cons step _ ih => rw [(checkName_eq_ok_iff.1 step).2, ih, List.map_cons]

theorem mapM_checkSymbol_eq_ok {symbols : List Text} {characters : List Char}
    (checked : symbols.mapM checkSymbol = .ok characters) : characters.map ([·]) = symbols := by
  have steps := Outcome.mapM_eq_ok_iff.1 checked
  clear checked
  induction steps with
  | nil => rfl
  | cons step _ ih => rw [List.map_cons, ih, (checkSymbol_eq_ok_iff.1 step).1]

/-- The names of a rule are folded already. -/
theorem map_fold_names (rule : Rule) : rule.names.map fold = rule.names := by
  rw [List.map_congr_left, List.map_id]
  intro name listed
  obtain ⟨typed, checked⟩ := rule.namesChecked name listed
  rw [(checkName_eq_ok_iff.1 checked).2, fold_fold]
  rfl

theorem spellings_of_replaceAliases {rule changed : Rule} {aliases : Option (List Text)}
    (success : rule.replaceAliases aliases = .ok changed) :
    changed.names = (rule.canonical :: aliases.getD rule.aliases).map fold ∧
      changed.symbols.map ([·]) = rule.symbols.map ([·]) := by
  cases aliases with
  | none =>
    cases success
    exact ⟨rule.map_fold_names.symm, rfl⟩
  | some names =>
    obtain ⟨namesChecked, symbolsChecked⟩ := make_eq_ok success
    exact ⟨mapM_checkName_eq_ok namesChecked, mapM_checkSymbol_eq_ok symbolsChecked⟩

theorem spellings_of_replaceSymbols {rule changed : Rule} {symbols : Option (List Text)}
    (success : rule.replaceSymbols symbols = .ok changed) :
    changed.names = rule.names ∧ changed.symbols.map ([·]) = symbols.getD (rule.symbols.map ([·])) := by
  cases symbols with
  | none =>
    cases success
    exact ⟨rfl, rfl⟩
  | some given =>
    obtain ⟨namesChecked, symbolsChecked⟩ := make_eq_ok success
    exact ⟨(mapM_checkName_eq_ok namesChecked).trans rule.map_fold_names, mapM_checkSymbol_eq_ok symbolsChecked⟩

theorem spellings_of_override {rule changed : Rule} {override : Override}
    (success : rule.override override = .ok changed) :
    changed.names = (rule.canonical :: override.aliases.getD rule.aliases).map fold ∧
      changed.symbols.map ([·]) = override.symbols.getD (rule.symbols.map ([·])) := by
  obtain ⟨between, aliasesReplaced, symbolsReplaced⟩ := Outcome.bind_eq_ok success
  obtain ⟨names, symbols⟩ := spellings_of_replaceAliases aliasesReplaced
  obtain ⟨namesKept, symbolsGiven⟩ := spellings_of_replaceSymbols symbolsReplaced
  exact ⟨namesKept.trans names, symbols ▸ symbolsGiven⟩

/-- A rule is designated by its symbols and by whatever abbreviates its names when folded. -/
theorem designates_iff_of_spellings {rule : Rule} {names symbols : List Text} (folded : rule.names = names.map fold)
    (listed : rule.symbols.map ([·]) = symbols) {token : Text} :
    rule.designates token = true ↔ token ∈ symbols ∨ token ≠ [] ∧ ∃ name ∈ names, fold token <+: fold name := by
  rw [designates_iff, folded, ← listed]
  constructor
  · rintro ⟨nonempty, ⟨symbol, member, rfl⟩ | ⟨name, member, beginning⟩⟩
    · exact .inl (List.mem_map_of_mem member)
    · obtain ⟨given, givenMember, rfl⟩ := List.mem_map.1 member
      exact .inr ⟨nonempty, given, givenMember, beginning⟩
  · rintro (member | ⟨nonempty, name, member, beginning⟩)
    · obtain ⟨symbol, symbolMember, rfl⟩ := List.mem_map.1 member
      exact ⟨List.cons_ne_nil _ _, .inl ⟨symbol, symbolMember, rfl⟩⟩
    · exact ⟨nonempty, .inr ⟨fold name, List.mem_map_of_mem member, beginning⟩⟩

end Rule

/-! ## Spellings in force -/

namespace Overrides

/-- The aliases that are in force for a field: those of its override, or else its own. -/
def aliasesFor (overrides : Overrides) (field : Field) : List Text :=
  ((overrides.lookup field).bind (·.aliases)).getD field.defaultRule.aliases

/-- The symbols that are in force for a field: those of its override, or else its own. -/
def symbolsFor (overrides : Overrides) (field : Field) : List Text :=
  ((overrides.lookup field).bind (·.symbols)).getD (field.defaultRule.symbols.map ([·]))

/-- The canonical name of a field, which cannot be overridden, and the aliases in force. -/
def namesFor (overrides : Overrides) (field : Field) : List Text :=
  field.defaultRule.canonical :: overrides.aliasesFor field

end Overrides

namespace FieldReader

/-- A built-in reader claims exactly the spellings in force for its field. -/
theorem builtIn_eq_ok {overrides : Overrides} {field : Field} {reader : FieldReader}
    (success : builtIn overrides field = .ok reader) :
    reader.field = field ∧ ∀ token, reader.claims (some token) = true ↔
      token ∈ overrides.symbolsFor field ∨
        token ≠ [] ∧ ∃ name ∈ overrides.namesFor field, fold token <+: fold name := by
  obtain ⟨rule, overridden, success⟩ := Outcome.bind_eq_ok success
  cases success
  obtain ⟨names, symbols⟩ := Rule.spellings_of_override overridden
  refine ⟨rfl, fun token => Rule.designates_iff_of_spellings ?_ ?_⟩
  · rw [names, Overrides.namesFor, Overrides.aliasesFor]
    cases overrides.lookup field <;> rfl
  · rw [symbols, Overrides.symbolsFor]
    cases overrides.lookup field <;> rfl

theorem fields_of_mapM_builtIn {overrides : Overrides} {fields : List Field} {readers : List FieldReader}
    (built : fields.mapM (builtIn overrides) = .ok readers) : readers.map (·.field) = fields := by
  have steps := Outcome.mapM_eq_ok_iff.1 built
  clear built
  induction steps with
  | nil => rfl
  | cons step _ ih => rw [List.map_cons, ih, (builtIn_eq_ok step).1]

theorem builtIn_of_mem {overrides : Overrides} {fields : List Field} {readers : List FieldReader}
    (built : fields.mapM (builtIn overrides) = .ok readers) :
    ∀ reader ∈ readers, builtIn overrides reader.field = .ok reader := by
  refine Selector.forall_of_mapM_ok (P := fun reader => builtIn overrides reader.field = .ok reader) ?_ built
  intro field reader success
  rw [(builtIn_eq_ok success).1]
  exact success

/-- What is reported is a conflict between a reader and a later one. -/
theorem exists_of_firstConflict? {readers : List FieldReader} {conflict : Conflict}
    (found : firstConflict? readers = some conflict) :
    ∃ reader other, [reader, other].Sublist readers ∧ reader.conflict? other = some conflict := by
  induction readers with
  | nil => cases found
  | cons reader later ih =>
    simp only [firstConflict?, Option.orElse_eq_orElse, Option.orElse_eq_or, Option.or_eq_some_iff] at found
    rcases found with here | ⟨-, further⟩
    · obtain ⟨other, member, between⟩ := List.exists_of_findSome?_eq_some here
      exact ⟨reader, other, (List.singleton_sublist.2 member).cons_cons reader, between⟩
    · obtain ⟨first, second, inside, between⟩ := ih further
      exact ⟨first, second, inside.cons reader, between⟩

/-- A conflict between readers of different fields names both fields and a token that both claim. -/
theorem claims_of_conflict? {reader other : FieldReader} {conflict : Conflict}
    (different : reader.field ≠ other.field) (found : reader.conflict? other = some conflict) :
    conflict.field = reader.field ∧ conflict.other = other.field ∧
      reader.claims (some conflict.token) = true ∧ other.claims (some conflict.token) = true := by
  rw [conflict?, if_neg different, Option.map_eq_some_iff] at found
  obtain ⟨c, shared, rfl⟩ := found
  obtain ⟨designated, also⟩ := Rule.designates_of_conflict? shared
  exact ⟨rfl, rfl, designated, also⟩

end FieldReader

namespace Registry

open SearchQuery.FieldReader

theorem ofOverrides_eq_ok {overrides : Overrides} {registry : Registry}
    (accepted : ofOverrides overrides = .ok registry) :
    Field.all.mapM (builtIn overrides) = .ok registry.readers := by
  obtain ⟨readers, built, made⟩ := Outcome.bind_eq_ok accepted
  obtain ⟨-, sameReaders⟩ := make_eq_ok_iff.1 (Outcome.mapError_eq_ok made)
  rw [sameReaders]
  exact Outcome.mapError_eq_ok built

/-- Who claims a selector in a registry is alone with it. -/
theorem eq_of_claims {registry : Registry} {reader other : FieldReader} {selector : Option Text}
    (registered : reader ∈ registry.readers) (claimed : reader.claims selector = true)
    (otherRegistered : other ∈ registry.readers) (otherClaimed : other.claims selector = true) : other = reader := by
  have found := find?_eq_some_iff.2 ⟨registered, claimed⟩
  rw [find?_eq_some_iff.2 ⟨otherRegistered, otherClaimed⟩] at found
  exact Option.some.inj found

theorem make_eq_error {readers : List FieldReader} {conflict : Conflict} (refused : make readers = .error conflict) :
    firstConflict? readers = some conflict := by
  rw [make] at refused
  split at refused
  next => cases refused
  next found =>
    cases refused
    exact found

/-- Overrides are refused for a conflict only if two fields would share the token that is reported. -/
theorem ofOverrides_eq_conflict {overrides : Overrides} {conflict : Conflict}
    (refused : ofOverrides overrides = .error (.conflict conflict)) :
    conflict.field ≠ conflict.other ∧
      ∃ reader other, builtIn overrides conflict.field = .ok reader ∧ builtIn overrides conflict.other = .ok other ∧
        reader.claims (some conflict.token) = true ∧ other.claims (some conflict.token) = true := by
  rw [ofOverrides] at refused
  cases built : Field.all.mapM (builtIn overrides) with
  | error fault =>
    rw [built] at refused
    cases refused
  | ok readers =>
    rw [built] at refused
    change (make readers).mapError RegistryError.conflict = .error (.conflict conflict) at refused
    cases made : make readers with
    | ok registry =>
      rw [made] at refused
      cases refused
    | error reported =>
      rw [made] at refused
      cases refused
      obtain ⟨reader, other, inside, between⟩ := exists_of_firstConflict? (make_eq_error made)
      -- two readers of the list are never for the same field
      have distinctFields : (readers.map (·.field)).Nodup := by
        rw [fields_of_mapM_builtIn built]
        decide
      have different : reader.field ≠ other.field := by
        have pair := (inside.map (·.field)).nodup distinctFields
        simpa using pair
      obtain ⟨sameField, sameOther, claimed, alsoClaimed⟩ := claims_of_conflict? different between
      rw [sameField, sameOther]
      refine ⟨different, reader, other, ?_, ?_, claimed, alsoClaimed⟩
      · exact builtIn_of_mem built reader (inside.subset List.mem_cons_self)
      · exact builtIn_of_mem built other (inside.subset (by simp))

/-- Overrides neither steal nor lose selectors.  In the registry of overrides every field keeps its place and is alone
with the beginnings of its names in force, in any case, and with its symbols in force; and it claims nothing else.
Overrides of valid spellings are refused only for a token that the rules of two fields would share. -/
theorem ofOverrides_keeps_selectors (overrides : Overrides) :
    (∀ registry, ofOverrides overrides = .ok registry →
      registry.readers.map (·.field) = Field.all ∧
      ∀ reader ∈ registry.readers,
        (∀ token, (token ∈ overrides.symbolsFor reader.field ∨
            ∃ name ∈ overrides.namesFor reader.field, ∃ beginning, beginning ≠ [] ∧ beginning <+: name ∧
              fold token = fold beginning) →
          reader.claims (some token) = true ∧
            ∀ other ∈ registry.readers, other.claims (some token) = true → other = reader) ∧
        ∀ token, reader.claims (some token) = true →
          token ∈ overrides.symbolsFor reader.field ∨
            token ≠ [] ∧ ∃ name ∈ overrides.namesFor reader.field, fold token <+: fold name) ∧
    ((∀ entry ∈ overrides, entry.2.Checked) →
      (∃ registry, ofOverrides overrides = .ok registry) ∨
        ∃ conflict, ofOverrides overrides = .error (.conflict conflict) ∧ conflict.field ≠ conflict.other ∧
          ∃ reader other, builtIn overrides conflict.field = .ok reader ∧
            builtIn overrides conflict.other = .ok other ∧
            reader.rule.designates conflict.token = true ∧ other.rule.designates conflict.token = true) := by
  refine ⟨?_, ?_⟩
  · intro registry accepted
    have built := ofOverrides_eq_ok accepted
    refine ⟨fields_of_mapM_builtIn built, ?_⟩
    intro reader registered
    obtain ⟨-, claims_iff⟩ := builtIn_eq_ok (builtIn_of_mem built reader registered)
    refine ⟨?_, fun token => (claims_iff token).1⟩
    intro token spelled
    have claimed : reader.claims (some token) = true := by
      rw [claims_iff]
      rcases spelled with isSymbol | ⟨name, inForce, beginning, nonempty, begins, alike⟩
      · exact .inl isSymbol
      · refine .inr ⟨?_, name, inForce, alike ▸ fold_isPrefix begins⟩
        rintro rfl
        exact fold_ne_nil nonempty alike.symm
    exact ⟨claimed, fun other member => eq_of_claims registered claimed member⟩
  · intro checked
    rcases ofOverrides_of_checked checked with accepted | ⟨conflict, refused⟩
    · exact .inl accepted
    · exact .inr ⟨conflict, refused, ofOverrides_eq_conflict refused⟩

theorem ofOverrides_keeps_selectors_sharp :
    let street : Overrides := [(.channel, ⟨some ["Straße".toList], none⟩)]
    let crossing : Overrides := [(.title, ⟨none, some ["D".toList]⟩)]
    (∃ registry, ofOverrides street = .ok registry ∧ ∃ reader ∈ registry.readers, reader.field = .channel ∧
      reader.claims (some "STRASS".toList) = true ∧
        ∀ other ∈ registry.readers, other.claims (some "STRASS".toList) = true → other = reader) ∧
    (∀ entry ∈ crossing, entry.2.Checked) ∧
    ∃ conflict, ofOverrides crossing = .error (.conflict conflict) ∧ conflict.field ≠ conflict.other := by
  intro street crossing
  refine ⟨?_, ?_⟩
  · obtain ⟨registry, accepted⟩ : ∃ registry, ofOverrides street = .ok registry := ⟨_, rfl⟩
    obtain ⟨fields, selectors⟩ := (ofOverrides_keeps_selectors street).1 registry accepted
    have listed : Field.channel ∈ registry.readers.map (·.field) := by
      rw [fields]
      decide
    obtain ⟨reader, registered, isChannel⟩ := List.mem_map.1 listed
    refine ⟨registry, accepted, reader, registered, isChannel, ?_⟩
    refine (selectors reader registered).1 _ (.inr ?_)
    rw [isChannel]
    exact ⟨"Straße".toList, by decide, "Straß".toList, by decide, by decide, by decide +kernel⟩
  · have checked : ∀ entry ∈ crossing, entry.2.Checked := by
      refine List.forall_mem_singleton.2 ⟨nofun, ?_⟩
      rintro _ ⟨⟩
      exact List.forall_mem_singleton.2 ⟨'D', rfl⟩
    refine ⟨checked, ?_⟩
    rcases (ofOverrides_keeps_selectors crossing).2 checked with ⟨registry, accepted⟩ | ⟨conflict, refused, shared⟩
    · obtain ⟨conflict, refused⟩ : ∃ conflict, ofOverrides crossing = .error (.conflict conflict) := ⟨_, rfl⟩
      cases accepted.symm.trans refused
    · exact ⟨conflict, refused, shared.1⟩

end Registry

end SearchQuery
