import SearchQuery.Command.Usage

/-!
# Starting a run

The options that stand before the command set up the console and the log and say where the settings are.  The
settings are loaded before a command looks at its arguments.
-/

set_option autoImplicit false

namespace SearchQuery

inductive GlobalOption where
  | config
  | noColor
  | verbose
  | debug
  | quiet
  | version
  | help
deriving DecidableEq

def GlobalOption.specs : List (OptionSpec GlobalOption) :=
  [⟨.config, "--config", some 'c', true⟩, ⟨.noColor, "--no-color", none, false⟩,
    ⟨.verbose, "--verbose", some 'v', false⟩, ⟨.debug, "--debug", none, false⟩,
    ⟨.quiet, "--quiet", some 'q', false⟩, ⟨.version, "--version", none, false⟩,
    ⟨.help, "--help", none, false⟩]

/-- Whether an option is carried out at once, whatever else was given. -/
def GlobalOption.isEager (option : GlobalOption) : Bool :=
  option = .help || option = .version

/-- The circumstances of a run. -/
structure Environment where
  /-- The name by which the program was called. -/
  program : Text
  place : Place
  /-- Whether the user asks all programs not to use colour. -/
  noColor : Bool

/-- What a command gets to know. -/
structure Context where
  environment : Environment
  settings : Settings
  verbose : Bool
  debug : Bool

namespace Run

def versionText : Text := "mediathek-search, version 0.1.0"

/-- Shows the help or the version, whichever was asked for first. -/
def eagerOptions (environment : Environment) (arguments : Arguments GlobalOption) : Run Unit :=
  match (arguments.options.map (·.1)).find? GlobalOption.isEager with
  | some .version => do
    echo versionText
    exit 0
  | some _ => showHelp environment.program none
  | none => pure ()

/-- The status of a failure that is neither of the command line nor of a search string. -/
def failureStatus : Nat := 1

def failWith {α : Type} (message : Text) : Run α := do
  error message
  exit failureStatus

def loadFailure {α : Type} : LoadError → Run α
  | .unknownHome => breakDown .unknownHome
  | .notText => breakDown .notText
  | .tooManyDigits _ => breakDown .tooManyDigits
  | .tooDeep => breakDown .tooDeep
  | .settings .unusableSection => breakDown .unusableSection
  | .settings (.invalid key _ reason) => failWith (reason.message key)
  | .file fault => failWith fault.message
  | .malformed path e => failWith ("Invalid config at " ++ path.text ++ ": " ++ e.message)

/-- Sets up log and console, loads the settings and prints their warnings. -/
def prepare (environment : Environment) (arguments : Arguments GlobalOption) : Run Context := do
  let debug := arguments.has .debug
  let verbose := arguments.has .verbose || debug
  let noColor := arguments.has .noColor || environment.noColor
  let logLevel : LogLevel := if debug then .debug else if verbose then .info else .warning
  modify fun session => { session with logLevel, noColor }
  match Settings.load (← get).files environment.place (arguments.value? .config) with
  | .error e => loadFailure e
  | .ok (settings, warnings) =>
    if !settings.coloredOutput then
      modify fun session => { session with noColor := true }
    if !arguments.has .quiet then
      warnings.forM warning
    return { environment, settings, verbose, debug }

/-- The words by which a command is reached. -/
def caller (environment : Environment) (command : Command) : Text :=
  environment.program ++ ' ' :: command.name

def registryStatus : Nat := 4

/-- Reports selectors that overlap. -/
def conflictFailure {α : Type} (conflict : Conflict) : Run α := do
  error conflict.message
  hint "Check the [selectors] sections of your config file"
  exit registryStatus

def registryFailure {α : Type} : RegistryError → Run α
  | .conflict conflict => conflictFailure conflict
  | .spelling _ => breakDown .spelling

end Run

end SearchQuery
