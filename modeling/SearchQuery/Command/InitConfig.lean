import SearchQuery.Command.Start
import SearchQuery.Settings.Example

/-!
# The command `init-config`

Writes a file with example settings.
-/

set_option autoImplicit false

namespace SearchQuery.Run

inductive InitOption where
  | force
  | output
  | help
deriving DecidableEq

def InitOption.specs : List (OptionSpec InitOption) :=
  [⟨.force, "--force", some 'f', false⟩, ⟨.output, "--output", some 'o', true⟩,
    ⟨.help, "--help", none, false⟩]

def initCommand (context : Context) (words : List Text) : Run Unit := do
  let caller := caller context.environment .initConfig
  let arguments ← parseOptions caller (some .initConfig) InitOption.specs true words
  if arguments.has .help then showHelp caller (some .initConfig)
  checkPath (arguments.value? .output)
  refuseWords caller .initConfig arguments.words
  let path ← require .unknownHome
    (Settings.locate? context.environment.place (arguments.value? .output))
  let files := (← get).files
  let taken ← match files.contains path with
    | .ok taken => pure taken
    | .error fault => breakDown (.file fault)
  if taken && !arguments.has .force then
    error ("Config file already exists: " ++ path.text)
    hint "Use --force to overwrite"
    exit failureStatus
  let (written, files) := files.place path (String.ofList Settings.exampleText).toUTF8
  modify fun session => { session with files }
  match written with
  | .error fault => failWith ("Failed to write config file: " ++ fault.message)
  | .ok () =>
    success ("Created config file: " ++ path.text)
    info "Edit this file to change default fields or selectors."

end SearchQuery.Run
