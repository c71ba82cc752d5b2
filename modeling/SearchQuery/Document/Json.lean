import SearchQuery.Document.Value

/-!
# JSON output

A document is printed over several lines: every item of a non-empty list or table stands on a line of
its own, two blanks further in than the brackets around it.
-/

set_option autoImplicit false

namespace SearchQuery.Value

open SearchQuery.Text SearchQuery.Numeral

def jsonChar (c : Char) : Text :=
  if c = '"' then "\\\""
  else if c = '\\' then "\\\\"
  else if c = '\n' then "\\n"
  else if c = '\r' then "\\r"
  else if c = '\t' then "\\t"
  else if c = '\x08' then "\\b"
  else if c = '\x0c' then "\\f"
  else if c.toNat < 0x20 then "\\u" ++ hex 4 c.toNat
  else [c]

def jsonText (s : Text) : Text :=
  '"' :: s.flatMap jsonChar ++ "\""

def jsonReal : Binary64 → Text
  | .nan => "NaN"
  | .infinite negative => (if negative then "-Infinity" else "Infinity" : String).toList
  | x => x.write

def jsonNewline (depth : Nat) : Text :=
  '\n' :: List.replicate (2 * depth) ' '

def jsonBlock (opening closing : Char) (depth : Nat) (items : List Text) : Text :=
  if items.isEmpty then [opening, closing]
  else
    opening :: jsonNewline (depth + 1) ++ join (',' :: jsonNewline (depth + 1)) items ++
      jsonNewline depth ++ [closing]

mutual

def json (depth : Nat) : Value → Text
  | .null => "null"
  | .bool b => (if b then "true" else "false" : String).toList
  | .integer n => writeInteger n
  | .real x => jsonReal x
  | .text s => jsonText s
  | .moment m => jsonText m.writeIso
  | .list items => jsonBlock '[' ']' depth (jsonItems (depth + 1) items)
  | .table entries => jsonBlock '\x7b' '\x7d' depth (jsonEntries (depth + 1) entries)

def jsonItems (depth : Nat) : List Value → List Text
  | [] => []
  | item :: rest => json depth item :: jsonItems depth rest

def jsonEntries (depth : Nat) : List (Text × Value) → List Text
  | [] => []
  | (key, value) :: rest => (jsonText key ++ ": " ++ json depth value) :: jsonEntries depth rest

end

end SearchQuery.Value
