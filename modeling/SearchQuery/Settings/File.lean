import SearchQuery.Files.Store
import SearchQuery.Settings.Document
import SearchQuery.Toml.Reader
import SearchQuery.Toml.Writer

/-!
# Settings files

Settings are kept in a file, by default below the home directory.  Without a file the built-in settings
apply, with a warning.
-/

set_option autoImplicit false

namespace SearchQuery

/-- Where a program runs: its working directory, the home directory of its user, and those of others by name. -/
structure Place where
  working : Path
  home : Path
  otherHomes : List (Text × Path) := []

/-- The home directory of a user, whose name may be left out if it is the user of the program. -/
def Place.homeOf (place : Place) (user : Text) : Option Path :=
  if user.isEmpty then some place.home else place.otherHomes.lookup user

/-- Why settings cannot be loaded. -/
inductive LoadError where
  | unknownHome
  | file (fault : FileFault)
  | notText
  | malformed (path : Path) (error : Toml.Error)
  | tooManyDigits (digits : Nat)
  | tooDeep
  | settings (fault : SettingsFault)

namespace Settings

def defaultPath (place : Place) : Path :=
  place.home ++ [".config".toList, "mediathek-search".toList, "config.toml".toList]

/-- The warning that there is no file. -/
def missingWarning (path : Path) : Text :=
  "No config file found at " ++ path.text ++
    ". Using defaults. Create config with: mediathek-search init-config"

/-- The settings of a file's content. -/
def ofContent (path : Path) (content : ByteArray) : Except LoadError Settings :=
  match String.fromUTF8? content with
  | none => .error .notText
  | some text =>
    match Toml.read text.toList with
    | .error (.tooManyDigits digits) => .error (.tooManyDigits digits)
    | .error .tooDeep => .error .tooDeep
    | .error e => .error (.malformed path e)
    | .ok document => (ofDocument (some path) document).mapError .settings

/-- The settings at a path, or the built-in ones if nothing is there, and what to warn of. -/
def loadAt (store : Store) (path : Path) : Except LoadError (Settings × List Text) :=
  match store.contains path with
  | .error fault => .error (.file fault)
  | .ok false => do
    let settings : Settings := {}
    let warnings ← settings.validate.mapError .settings
    return (settings, missingWarning path :: warnings)
  | .ok true => do
    let content ← (store.read path).mapError .file
    let settings ← ofContent path content
    let warnings ← settings.validate.mapError .settings
    return (settings, warnings)

/-- The place that a typed path names, and without one the default place. -/
def locate? (place : Place) : Option Text → Option Path
  | none => some (defaultPath place)
  | some typed => Path.resolve? place.working place.homeOf typed

/-- The settings at a typed path, or at the default one. -/
def load (store : Store) (place : Place) (typed : Option Text) :
    Except LoadError (Settings × List Text) :=
  match locate? place typed with
  | none => .error .unknownHome
  | some path => loadAt store path

/-- Writes settings to a path, or else to their own one, or else to the default one. -/
def save (store : Store) (place : Place) (settings : Settings) (path : Option Path) :
    Except FileFault (Store × Path) := do
  let path := (path <|> settings.path).getD (defaultPath place)
  let (written, store) := store.place path (String.ofList (Toml.write settings.toDocument)).toUTF8
  written
  return (store, path)

end Settings

end SearchQuery
