import SearchQuery.Command.Start
import SearchQuery.Console.Grid

/-!
# The command `selectors`

Prints a table with the selectors of every field.
-/

set_option autoImplicit false

namespace SearchQuery.Run

/-- The row of a reader in the table of selectors. -/
def selectorRow (reader : FieldReader) : List Text :=
  [reader.field.name, reader.rule.canonical, Text.join ", " reader.rule.aliases,
    Text.join [' '] (reader.rule.symbols.map ([·])), reader.kind.name]

def selectorHeader : List Text :=
  ["Field".toList, "Name".toList, "Aliases".toList, "Symbols".toList, "Value".toList]

def selectorsCommand (context : Context) (words : List Text) : Run Unit := do
  let caller := caller context.environment .selectors
  let arguments ← parseOptions caller (some .selectors) HelpOption.specs true words
  if arguments.has .help then showHelp caller (some .selectors)
  refuseWords caller .selectors arguments.words
  match context.settings.registry with
  | .error e => registryFailure e
  | .ok registry =>
    let rows := registry.readers.map selectorRow
    toStdout (← rendered (Grid.print "Selectors" selectorHeader rows))
    print ("Text without a selector searches: " ++
      styled "query.field" (Field.names context.settings.defaultFields))

end SearchQuery.Run
