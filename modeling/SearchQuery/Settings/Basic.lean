import SearchQuery.Compile.Compiler
import SearchQuery.Files.Path

/-!
# Settings

The settings of a user: the fields that are searched by text without a selector, the overrides of the
built-in selectors, and whether output is coloured.
-/

set_option autoImplicit false

namespace SearchQuery

structure Settings where
  defaultFields : List Field := Compiler.usualFields
  overrides : Overrides := []
  coloredOutput : Bool := true
  /-- Where the settings were read from, if they were. -/
  path : Option Path := none

/-- What may be wrong with one setting. -/
inductive SettingReason where
  | notList
  | notFieldName
  | unknownField
  | notBoolean
  | notTable
  | notTexts
  | empty
  | spelling (fault : SpellingFault)
deriving DecidableEq

def SettingReason.text : SettingReason → Text
  | .notList => "must be a list"
  | .notFieldName => "must be a field name string"
  | .unknownField => "unknown field (valid: " ++ Field.names Field.all ++ ")"
  | .notBoolean => "must be a boolean"
  | .notTable => "must be a table"
  | .notTexts => "must be a list of strings"
  | .empty => "must not be empty"
  | .spelling fault => fault.message

/-- Why settings are refused: for the value of one of them, or because a section that cannot hold any entry
was asked for one. -/
inductive SettingsFault where
  | invalid (key : Text) (value : Value) (reason : SettingReason)
  | unusableSection

/-- The complaint about the value of a setting. -/
def SettingReason.message (key : Text) (reason : SettingReason) : Text :=
  "Invalid config value for '" ++ key ++ "': " ++ reason.text

namespace Settings

def takesRanges (field : Field) : Bool :=
  field = .duration || field = .timestamp

/-- What a user should know about settings that are not refused. -/
def warnings (settings : Settings) : List Text :=
  (settings.defaultFields.filter takesRanges).map fun field =>
    "search.default_fields contains '" ++ field.name ++ "', free text will never match it"

/-- Settings that can be used, and their warnings. -/
def validate (settings : Settings) : Except SettingsFault (List Text) :=
  if settings.defaultFields = [] then
    .error (.invalid "search.default_fields" (.list []) .empty)
  else .ok settings.warnings

def registry (settings : Settings) : Except RegistryError Registry :=
  Registry.ofOverrides settings.overrides

/-- Why settings give no compiler. -/
inductive CompilerError where
  | registry (error : RegistryError)
  | fields (fault : QueryFault)
deriving DecidableEq

def compiler (settings : Settings) : Except CompilerError Compiler := do
  let registry ← settings.registry.mapError .registry
  (Compiler.make registry settings.defaultFields).mapError .fields

end Settings

end SearchQuery
