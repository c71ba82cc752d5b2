import SearchQuery.Command.Start
import SearchQuery.Document.Json
import SearchQuery.Query.Document
import SearchQuery.Query.Literal

/-!
# The command `compile`

Compiles a search string and prints its query as a tree or as a document.  The status tells what became of the
search string.
-/

set_option autoImplicit false

namespace SearchQuery.Run

inductive CompileOption where
  | format
  | help
deriving DecidableEq

def CompileOption.specs : List (OptionSpec CompileOption) :=
  [⟨.format, "--format", some 'f', true⟩, ⟨.help, "--help", none, false⟩]

inductive OutputFormat where
  | tree
  | json
deriving DecidableEq

def OutputFormat.ofName? (s : Text) : Option OutputFormat :=
  [("tree".toList, OutputFormat.tree), ("json".toList, OutputFormat.json)].lookup s

/-- The format that was asked for last. -/
def outputFormat (caller : Text) (arguments : Arguments CompileOption) : Run OutputFormat :=
  match arguments.value? .format with
  | none => pure .tree
  | some name =>
    match OutputFormat.ofName? name with
    | some format => pure format
    | none => usageError caller (some .compile) (.badFormat name)

/-- The status that tells why a search string has no query. -/
def compileStatus : CompileError → Nat
  | .malformed _ => 1
  | .empty _ => 1
  | .unknownSelector _ _ => 2
  | .conversion _ _ _ => 3
  | .fault _ => failureStatus

/-- The canonical name of every reader with its field. -/
def knownSelectors (registry : Registry) : Text :=
  Text.join ", " (registry.readers.map fun reader =>
    reader.rule.canonical ++ " (" ++ reader.field.name ++ ")")

def compileFailure {α : Type} (registry : Registry) (e : CompileError) : Run α := do
  if let .fault fault := e then breakDown (.query fault)
  error e.message
  match e with
  | .malformed _ | .empty _ => hint "Close quotes with \" and escape literal quotes with \\\""
  | .unknownSelector _ _ => hint ("Known selectors: " ++ knownSelectors registry)
  | _ => pure ()
  exit (compileStatus e)

/-- Prints a query. -/
def printQuery (format : OutputFormat) (query : Query) : Run Unit :=
  match format with
  | .json =>
    match query.toValue with
    | .ok document => echo (document.json 0)
    | .error _ => breakDown .foreignNode
  | .tree => do
    let tree ← require .tooManyDigits query.tree?
    toStdout (← rendered tree.print)

/-- Compiles words, joined by blanks, and prints the query. -/
def compileWords (context : Context) (format : OutputFormat) (words : List Text) : Run Unit := do
  let source := Text.join [' '] words
  match context.settings.compiler with
  | .error (.registry e) => registryFailure e
  | .error (.fields fault) => breakDown (.query fault)
  | .ok compiler =>
    if context.verbose then info ("Compiling: " ++ Markup.escape source)
    match compiler.compile source with
    | .error e => compileFailure compiler.registry e
    | .ok query =>
      let literal ← require .tooManyDigits query.literal?
      if context.debug then debug ("Query tree: " ++ Markup.escape literal)
      printQuery format query

def compileCommand (context : Context) (words : List Text) : Run Unit := do
  let caller := caller context.environment .compile
  let arguments ← parseOptions caller (some .compile) CompileOption.specs true words
  if arguments.has .help then showHelp caller (some .compile)
  let format ← outputFormat caller arguments
  if arguments.words.isEmpty then usageError caller (some .compile) .queryMissing
  compileWords context format arguments.words

end SearchQuery.Run
