import SearchQuery.Toml.Table
import SearchQuery.Toml.Text

/-!
# Writing TOML documents

Tables are written under headers of their own, an empty line between them, and a header is left out for a
table that holds nothing but tables.  Every item of a list stands on a line of its own.
-/

set_option autoImplicit false

namespace SearchQuery.Toml

open SearchQuery.Text

def writeChar (c : Char) : Text :=
  if c = '"' then "\\\""
  else if c = '\\' then "\\\\"
  else if c = '\n' then "\\n"
  else if c = '\r' then "\\r"
  else if c = '\x08' then "\\b"
  else if c = '\x0c' then "\\f"
  else if isControl c then "\\u" ++ hex 4 c.toNat
  else [c]

def writeText (s : Text) : Text :=
  '"' :: s.flatMap writeChar ++ "\""

def writeKey (key : Text) : Text :=
  if !key.isEmpty && key.all isBareKeyChar then key else writeText key

def listIndent (depth : Nat) : Text :=
  List.replicate (4 * depth) ' '

mutual

/-- A value on the right of an equals sign.  Absent values, for which the format has no spelling, become
empty texts. -/
def writeValue (depth : Nat) : Value → Text
  | .null => writeText []
  | .bool b => (if b then "true" else "false" : String).toList
  | .integer n => Numeral.writeInteger n
  | .real x => x.write
  | .text s => writeText s
  | .moment m => m.writeIso
  | .list items =>
    if items.isEmpty then "[]"
    else "[\n" ++ writeItems (depth + 1) items ++ listIndent depth ++ "]"
  | .table entries => "\x7b " ++ join ", " (writeInline depth entries) ++ " \x7d"

def writeItems (depth : Nat) : List Value → Text
  | [] => []
  | item :: rest => listIndent depth ++ writeValue depth item ++ ",\n" ++ writeItems depth rest

def writeInline (depth : Nat) : Entries → List Text
  | [] => []
  | (key, value) :: rest => (writeKey key ++ " = " ++ writeValue depth value) :: writeInline depth rest

end

/-- The entries of a table that are not tables themselves. -/
def plainLines : Entries → Text
  | [] => []
  | (_, .table _) :: rest => plainLines rest
  | (key, value) :: rest => writeKey key ++ " = " ++ writeValue 0 value ++ "\n" ++ plainLines rest

/-- Whether a table holds tables and nothing else. -/
def holdsOnlyTables (entries : Entries) : Bool :=
  !entries.isEmpty && (plainLines entries).isEmpty

mutual

/-- The blocks of a table under a name: its own header and entries, then its tables. -/
def tableBlocks (name : Text) : Value → List Text
  | .table entries =>
    let header := if holdsOnlyTables entries then [] else [('[' :: name ++ "]\n" ++ plainLines entries)]
    header ++ innerBlocks (name ++ ".") entries
  | _ => []

/-- The blocks of all tables among some entries. -/
def innerBlocks (path : Text) : Entries → List Text
  | [] => []
  | (key, value) :: rest => tableBlocks (path ++ writeKey key) value ++ innerBlocks path rest

end

/-- The text of a document. -/
def write (entries : Entries) : Text :=
  let top := plainLines entries
  join "\n" ((if top.isEmpty then [] else [top]) ++ innerBlocks [] entries)

end SearchQuery.Toml
