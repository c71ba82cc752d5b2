import SearchQuery.Console.Line

/-!
# Printing

What a console prints of marked-up text.  The styles of the spans are looked up for it.
-/

set_option autoImplicit false

namespace SearchQuery.Console

/-- The lines that a console shows in some columns. -/
def display (columns : Nat) (rendering : Markup.Rendering) : Except Markup.Fault (List Text) :=
  let lines := (Line.ofRendering rendering).layout columns .fold
  if Line.areReadable lines then
    .ok (lines.map fun line => (limitStretches columns line.stretches).flatten)
  else .error .unreadableNumber

/-- The lines that a console shows for marked-up text in some columns. -/
def present (columns : Nat) (markup : Text) : Except Markup.Fault (List Text) := do
  display columns (← Markup.render markup)

/-- The columns of a console. -/
def allColumns : Nat := 10000

/-- Lines as they are printed. -/
def printed (lines : List Text) : Text :=
  lines.flatMap (· ++ ['\n'])

/-- What a console prints for marked-up text. -/
def print (markup : Text) : Except Markup.Fault Text :=
  (present allColumns markup).map printed

end SearchQuery.Console
