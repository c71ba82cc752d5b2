import SearchQuery.Command.Compile
import SearchQuery.Command.InitConfig
import SearchQuery.Command.Selectors

/-!
# Runs of the program

Options of the program come first, then a command with its own arguments.
-/

set_option autoImplicit false

namespace SearchQuery.Run

/-- Prints the help of the program or of the command that is named first. -/
def helpCommand (context : Context) (words : List Text) : Run Unit := do
  let caller := caller context.environment .help
  let arguments ← parseOptions caller (some .help) HelpOption.specs true words
  if arguments.has .help then showHelp caller (some .help)
  match arguments.words with
  | [] => showHelp caller none
  | name :: _ =>
    match Command.ofName? name with
    | some command => showHelp caller (some command)
    | none => failWith ("Unknown command: " ++ name)

/-- Reports a first word that is no command.  If it looks like an option, the words are first read as
options. -/
def unknownCommand {α : Type} (environment : Environment) (name : Text) (words : List Text) :
    Run α := do
  if OptionSpec.isOption name then
    let parsed ← parseOptions environment.program none GlobalOption.specs false words
    eagerOptions environment parsed
    checkPath (parsed.value? .config)
  usageError environment.program none (.unknownCommand name)

def runCommand (context : Context) : Command → List Text → Run Unit
  | .compile => compileCommand context
  | .help => helpCommand context
  | .initConfig => initCommand context
  | .selectors => selectorsCommand context

/-- Runs the program with its arguments. -/
def program (environment : Environment) (arguments : List Text) : Run Unit := do
  let name := environment.program
  if arguments.isEmpty then
    echoError (Command.helpText name none)
    exit usageStatus
  let parsed ← parseOptions name none GlobalOption.specs false arguments
  eagerOptions environment parsed
  checkPath (parsed.value? .config)
  match parsed.words with
  | [] => usageError name none .commandMissing
  | first :: rest =>
    match Command.ofName? first with
    | none => unknownCommand environment first parsed.words
    | some command =>
      let context ← prepare environment parsed
      runCommand context command rest

/-! ## Files -/

/-- The place of the example that a command would write. -/
def examplePath? (environment : Environment) : List Text → Option Path
  | [] => none
  | first :: rest =>
    match Command.ofName? first, OptionSpec.parse InitOption.specs true rest with
    | some .initConfig, .ok parsed => Settings.locate? environment.place (parsed.value? .output)
    | _, _ => none

/-- The places of the files that a run may read or write. -/
def filePaths (environment : Environment) (arguments : List Text) : List Path :=
  match OptionSpec.parse GlobalOption.specs false arguments with
  | .error _ => []
  | .ok parsed =>
    (Settings.locate? environment.place (parsed.value? .config)).toList ++
      (examplePath? environment parsed.words).toList

end SearchQuery.Run
