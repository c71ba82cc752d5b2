import SearchQuery.Reading.FieldReader

/-!
# Registries

A registry is a list of field readers in which no field appears twice and no two rules have a token in
common, so that every segment is for at most one reader.
-/

set_option autoImplicit false

namespace SearchQuery

/-- Two readers that cannot stand in one registry, and the token that both would claim. -/
structure Conflict where
  field : Field
  other : Field
  token : Text
deriving DecidableEq

def Conflict.message (c : Conflict) : Text :=
  "Selector '" ++ c.token ++ "' of field '" ++ c.field.name ++ "' overlaps with field '" ++
    c.other.name ++ "'"

namespace FieldReader

def conflict? (reader other : FieldReader) : Option Conflict :=
  if reader.field = other.field then
    some ⟨reader.field, other.field, reader.rule.canonical⟩
  else
    (reader.rule.conflict? other.rule).map fun token => ⟨reader.field, other.field, [token]⟩

/-- The first conflict between a reader and a later one. -/
def firstConflict? : List FieldReader → Option Conflict
  | [] => none
  | reader :: later => later.findSome? reader.conflict? <|> firstConflict? later

end FieldReader

structure Registry where
  readers : List FieldReader
  coherent : FieldReader.firstConflict? readers = none

namespace Registry

def make (readers : List FieldReader) : Except Conflict Registry :=
  match coherent : FieldReader.firstConflict? readers with
  | none => .ok ⟨readers, coherent⟩
  | some conflict => .error conflict

/-- The registry with further readers at its end. -/
def extend (registry : Registry) (readers : List FieldReader) : Except Conflict Registry :=
  make (registry.readers ++ readers)

/-- The reader that a segment with this selector is for. -/
def find? (registry : Registry) (selector : Option Text) : Option FieldReader :=
  registry.readers.find? (·.claims selector)

/-- The reader of a field. -/
def get? (registry : Registry) (field : Field) : Option FieldReader :=
  registry.readers.find? (·.field = field)

end Registry

/-! ## The built-in registry -/

/-- Replacements for the aliases and the symbols of a built-in rule. -/
structure Override where
  aliases : Option (List Text)
  symbols : Option (List Text)
deriving DecidableEq

/-- At most one override for each field, in the order in which the fields were first given. -/
abbrev Overrides := List (Field × Override)

/-- Why overrides make no registry. -/
inductive RegistryError where
  | spelling (fault : SpellingFault)
  | conflict (conflict : Conflict)
deriving DecidableEq

def Field.defaultRule : Field → Rule
  | .channel => .ofFolded "channel" ["sender".toList] ['!'] rfl rfl
  | .topic => .ofFolded "programme" ["program".toList] ['#'] rfl rfl
  | .title => .ofFolded "title" ["titel".toList] ['+'] rfl rfl
  | .description => .ofFolded "info" ["beschreibung".toList] ['*'] rfl rfl
  | .duration => .ofFolded "duration" ["dauer".toList] [] rfl rfl
  | .timestamp => .ofFolded "aired" ["ausgestrahlt".toList] ['@'] rfl rfl

def Field.defaultKind : Field → ValueKind
  | .duration => .duration
  | .timestamp => .date
  | _ => .text .all

namespace Overrides

/-- Replaces the override of a field in its place, or adds it at the end. -/
def put (field : Field) (override : Override) : Overrides → Overrides
  | [] => [(field, override)]
  | entry :: rest =>
    if entry.1 = field then (field, override) :: rest else entry :: put field override rest

end Overrides

namespace Rule

def replaceAliases (rule : Rule) : Option (List Text) → Except SpellingFault Rule
  | none => .ok rule
  | some aliases => make rule.canonical aliases (rule.symbols.map ([·]))

def replaceSymbols (rule : Rule) : Option (List Text) → Except SpellingFault Rule
  | none => .ok rule
  | some symbols => make rule.canonical rule.aliases symbols

def override (rule : Rule) (override : Override) : Except SpellingFault Rule := do
  (← rule.replaceAliases override.aliases).replaceSymbols override.symbols

end Rule

namespace FieldReader

/-- The built-in reader of a field, with the overrides applied to its rule. -/
def builtIn (overrides : Overrides) (field : Field) : Except SpellingFault FieldReader := do
  let rule ← field.defaultRule.override ((overrides.lookup field).getD ⟨none, none⟩)
  return ⟨field, rule, field.defaultKind⟩

end FieldReader

/-- The built-in readers of all fields in one registry. -/
def Registry.ofOverrides (overrides : Overrides) : Except RegistryError Registry := do
  let readers ← (Field.all.mapM (FieldReader.builtIn overrides)).mapError .spelling
  (Registry.make readers).mapError .conflict

end SearchQuery
