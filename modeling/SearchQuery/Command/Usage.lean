import SearchQuery.Command.Help
import SearchQuery.Command.Option
import SearchQuery.Command.Session

/-!
# Usage

What may be wrong with the arguments of a command, and how it is reported: with the usage line of the command
and a pointer to its help, unless the fault lies in the value of an option.
-/

set_option autoImplicit false

namespace SearchQuery

/-- What is wrong with a command line. -/
inductive UsageFault where
  | option (fault : OptionFault)
  | unknownCommand (name : Text)
  | commandMissing
  | queryMissing
  | badFormat (value : Text)
  | extraWords (words : List Text)
deriving DecidableEq

namespace UsageFault

def message : UsageFault → Text
  | .option (.unknown name alike) =>
    "No such option " ++ Text.quoted name ++ "." ++ Suggestion.text alike
  | .option (.valueMissing name) => "Option " ++ Text.quoted name ++ " requires an argument."
  | .option (.valueRefused name) => "Option " ++ Text.quoted name ++ " does not take a value."
  | .unknownCommand name =>
    "No such command " ++ Text.quoted name ++ "." ++
      Suggestion.text (Suggestion.closest name (Command.all.map Command.name))
  | .commandMissing => "Missing command."
  | .queryMissing => "Missing argument 'QUERY...'."
  | .badFormat value =>
    "Invalid value for '--format' / '-f': " ++ Text.quoted value ++ " is not one of 'tree', 'json'."
  | .extraWords [word] => "Got unexpected extra argument (" ++ word ++ ")"
  | .extraWords words => "Got unexpected extra arguments (" ++ Text.join [' '] words ++ ")"

/-- Faults in the value of an option are reported without the usage. -/
def showsUsage : UsageFault → Bool
  | .option (.valueMissing _) => false
  | .option (.valueRefused _) => false
  | _ => true

end UsageFault

inductive HelpOption where
  | help
deriving DecidableEq

def HelpOption.specs : List (OptionSpec HelpOption) :=
  [⟨.help, "--help", none, false⟩]

namespace Run

/-- The status of a command line that cannot be understood. -/
def usageStatus : Nat := 2

/-- Reports a fault in the arguments of a command that is reached by some words. -/
def usageError {α : Type} (caller : Text) (command : Option Command) (fault : UsageFault) :
    Run α := do
  if fault.showsUsage then
    echoError (Command.usage caller command ++ "\nTry '" ++ caller ++ " --help' for help.\n")
  echoError ("Error: " ++ fault.message)
  exit usageStatus

def parseOptions {κ : Type} (caller : Text) (command : Option Command)
    (specs : List (OptionSpec κ)) (between : Bool) (arguments : List Text) : Run (Arguments κ) :=
  match OptionSpec.parse specs between arguments with
  | .ok parsed => pure parsed
  | .error fault => usageError caller command (.option fault)

def showHelp {α : Type} (caller : Text) (command : Option Command) : Run α := do
  echo (Command.helpText caller command)
  exit 0

/-- A path must not hold the character that ends a text for the system. -/
def checkPath (typed : Option Text) : Run Unit :=
  if typed.any (·.contains '\x00') then breakDown .badPath else pure ()

def refuseWords (caller : Text) (command : Command) (words : List Text) : Run Unit :=
  if words.isEmpty then pure () else usageError caller (some command) (.extraWords words)

end Run

end SearchQuery
