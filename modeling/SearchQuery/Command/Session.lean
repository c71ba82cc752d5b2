import SearchQuery.Console.Plain
import SearchQuery.Console.Print
import SearchQuery.Query.Basic
import SearchQuery.Query.Tree
import SearchQuery.Settings.File

/-!
# Sessions

A session is what a run of the program leaves behind: the files, what was printed to either stream, and the
state of the console and of the log.  A run ends early with an exit status, or it breaks down for a reason that
the program does not handle.
-/

set_option autoImplicit false

namespace SearchQuery

inductive LogLevel where
  | warning
  | info
  | debug
deriving DecidableEq

structure Session where
  files : Store
  stdout : Text := []
  stderr : Text := []
  noColor : Bool := false
  logLevel : LogLevel := .warning

/-- Why a run breaks down. -/
inductive Breakdown where
  | markup (fault : Markup.Fault)
  | unusableSection
  | notText
  | tooManyDigits
  | tooDeep
  | unknownHome
  | badPath
  | file (fault : FileFault)
  | spelling
  | foreignNode
  | query (fault : QueryFault)
deriving DecidableEq

inductive Stop where
  | exit (status : Nat)
  | breakdown (reason : Breakdown)
deriving DecidableEq

abbrev Run := ExceptT Stop (StateM Session)

namespace Run

def exit {α : Type} (status : Nat) : Run α :=
  throw (.exit status)

def breakDown {α : Type} (reason : Breakdown) : Run α :=
  throw (.breakdown reason)

/-- A value that has to be there. -/
def require {α : Type} (reason : Breakdown) : Option α → Run α
  | some a => pure a
  | none => breakDown reason

def toStdout (s : Text) : Run Unit :=
  modify fun session => { session with stdout := session.stdout ++ s }

def toStderr (s : Text) : Run Unit :=
  modify fun session => { session with stderr := session.stderr ++ s }

/-- Prints plain text and a line feed. -/
def echo (s : Text) : Run Unit :=
  toStdout (Console.withoutSequences s ++ ['\n'])

/-- Prints plain text and a line feed to the error stream. -/
def echoError (s : Text) : Run Unit :=
  toStderr (Console.withoutSequences s ++ ['\n'])

/-- What was made of marked-up text. -/
def rendered {α : Type} : Except Markup.Fault α → Run α
  | .ok a => pure a
  | .error fault => do
    toStderr fault.warnings.flatten
    breakDown (.markup fault)

/-- Prints marked-up text. -/
def print (markup : Text) : Run Unit := do
  toStdout (← rendered (Console.print markup))

/-- Prints marked-up text to the error stream. -/
def printError (markup : Text) : Run Unit := do
  toStderr (← rendered (Console.print markup))

def info (message : Text) : Run Unit :=
  print (styled "info" message)

def success (message : Text) : Run Unit :=
  print (styled "success" message)

def warning (message : Text) : Run Unit :=
  printError (styled "warning" "Warning:" ++ ' ' :: message)

def error (message : Text) : Run Unit :=
  printError (styled "error" "Error:" ++ ' ' :: message)

def hint (message : Text) : Run Unit :=
  printError ("  " ++ styled "info" "Hint:" ++ ' ' :: message)

def debug (message : Text) : Run Unit :=
  printError (styled "warning" "\\[DEBUG]" ++ ' ' :: message)

/-- Where a run ended, and what it left behind. -/
def finish (run : Run Unit) (session : Session) : Except Stop Unit × Session :=
  (ExceptT.run run).run session

end Run

end SearchQuery
