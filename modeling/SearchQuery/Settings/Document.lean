import SearchQuery.Settings.Basic

/-!
# Settings as documents

Settings are read from a document with the tables `search`, `display` and `selectors`, the last of which has
a table for each field that is overridden; everything else in the document is ignored.  The name of such a table
may be written in any case, and of several tables for one field the last one counts.
-/

set_option autoImplicit false

namespace SearchQuery.Settings

/-! ## Reading -/

/-- The entry of a section.  A section that is a text or a list counts as a table without entries as long as the
key does not occur in it. -/
def entry? (key : Text) : Option Value → Except SettingsFault (Option Value)
  | none => .ok none
  | some (.table entries) => .ok (entries.lookup key)
  | some (.text s) => if Text.occursIn key s then .error .unusableSection else .ok none
  | some (.list items) =>
    if items.any (fun item => match item with
      | .text s => s = key
      | _ => false)
    then .error .unusableSection
    else .ok none
  | some _ => .error .unusableSection

def readField (key : Text) : Value → Except SettingsFault Field
  | .text s =>
    match Field.ofAnyCase? s with
    | some field => .ok field
    | none => .error (.invalid key (.text s) .unknownField)
  | value => .error (.invalid key value .notFieldName)

def readDefaultFields : Option Value → Except SettingsFault (List Field)
  | none => .ok Compiler.usualFields
  | some (.list items) => items.mapM (readField "search.default_fields")
  | some value => .error (.invalid "search.default_fields" value .notList)

def readColoredOutput : Option Value → Except SettingsFault Bool
  | none => .ok true
  | some (.bool b) => .ok b
  | some value => .error (.invalid "display.colored_output" value .notBoolean)

def readTexts (key : Text) : Option Value → Except SettingsFault (Option (List Text))
  | none => .ok none
  | some (.list items) =>
    match Value.texts? items with
    | some texts => .ok (some texts)
    | none => .error (.invalid key (.list items) .notTexts)
  | some value => .error (.invalid key value .notTexts)

/-- Checks spellings one after the other. -/
def checkSpellings {α : Type} (key : Text) (check : Text → Except SpellingFault α) :
    List Text → Except SettingsFault Unit
  | [] => .ok ()
  | spelling :: rest =>
    match check spelling with
    | .error fault => .error (.invalid key (.text spelling) (.spelling fault))
    | .ok _ => checkSpellings key check rest

/-- The override of a section: the shapes of both entries are checked first, then the symbols, then the
aliases. -/
def readOverride (key : Text) : Value → Except SettingsFault Override
  | .table entries => do
    let aliases ← readTexts (key ++ ".aliases") (entries.lookup "aliases".toList)
    let symbols ← readTexts (key ++ ".symbols") (entries.lookup "symbols".toList)
    checkSpellings (key ++ ".symbols") Selector.checkSymbol (symbols.getD [])
    checkSpellings (key ++ ".aliases") Selector.checkName (aliases.getD [])
    return ⟨aliases, symbols⟩
  | value => .error (.invalid key value .notTable)

/-- The overrides of the sections in their order; a section is checked before its name is. -/
def readSections (overrides : Overrides) : List (Text × Value) → Except SettingsFault Overrides
  | [] => .ok overrides
  | (name, section_) :: rest => do
    let key : Text := "selectors." ++ name
    let override ← readOverride key section_
    let field ← readField key (.text name)
    readSections (overrides.put field override) rest

def readOverrides : Option Value → Except SettingsFault Overrides
  | none => .ok []
  | some (.table sections) => readSections [] sections
  | some value => .error (.invalid "selectors" value .notTable)

/-- The settings of a document that was read from some place. -/
def ofDocument (path : Option Path) (document : List (Text × Value)) :
    Except SettingsFault Settings := do
  let defaultFields ← readDefaultFields (← entry? "default_fields" (document.lookup "search".toList))
  let coloredOutput ← readColoredOutput (← entry? "colored_output" (document.lookup "display".toList))
  let overrides ← readOverrides (document.lookup "selectors".toList)
  return { defaultFields, overrides, coloredOutput, path }

/-! ## Writing -/

def textList (texts : List Text) : Value :=
  .list (texts.map .text)

def partEntry (key : Text) : Option (List Text) → List (Text × Value)
  | none => []
  | some texts => [(key, textList texts)]

/-- The section of an override, unless it replaces nothing. -/
def overrideEntry? (entry : Field × Override) : Option (Text × Value) :=
  let parts := partEntry "aliases" entry.2.aliases ++ partEntry "symbols" entry.2.symbols
  if parts.isEmpty then none else some (entry.1.name, .table parts)

def toDocument (settings : Settings) : List (Text × Value) :=
  let sections := settings.overrides.filterMap overrideEntry?
  [("search".toList, .table [("default_fields".toList, textList (settings.defaultFields.map Field.name))]),
    ("display".toList, .table [("colored_output".toList, .bool settings.coloredOutput)])] ++
    (if sections.isEmpty then [] else [("selectors".toList, .table sections)])

end SearchQuery.Settings
