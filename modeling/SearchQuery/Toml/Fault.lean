import SearchQuery.Number.Numeral
import SearchQuery.Query.Literal

/-!
# Faults of TOML documents

What is wrong with the text of a document, and where.  A fault found while reading carries the rest of the
text from the offending place on; its position in the whole text is worked out afterwards.  A step of
reading yields what it has read together with the rest of the text.
-/

set_option autoImplicit false

namespace SearchQuery.Toml

open SearchQuery.Text

abbrev Key := List Text

inductive Complaint where
  | invalidStatement
  | trailingText
  | noEquals
  | badKeyStart
  | expected (delimiter : Text)
  | strayControl (c : Char)
  | illegalCharacter (c : Char)
  | unterminatedString
  | badEscape
  | badHex
  | noScalar
  | unclosedArray
  | unclosedTable
  | repeatedKey (key : Text)
  | declaredTwice (key : Key)
  | immutable (key : Key)
  | redefined (key : Key)
  | overwritten
  | noBracket
  | noDoubleBracket
  | invalidDate
  | invalidValue
deriving DecidableEq

def Key.literal (key : Key) : Text :=
  sequenceLiteral (key.map quoted)

def Complaint.message : Complaint → Text
  | .invalidStatement => "Invalid statement"
  | .trailingText => "Expected newline or end of document after a statement"
  | .noEquals => "Expected '=' after a key in a key/value pair"
  | .badKeyStart => "Invalid initial character for a key part"
  | .expected delimiter => "Expected " ++ quoted delimiter
  | .strayControl c => "Found invalid character " ++ quoted [c]
  | .illegalCharacter c => "Illegal character " ++ quoted [c]
  | .unterminatedString => "Unterminated string"
  | .badEscape => "Unescaped '\\' in a string"
  | .badHex => "Invalid hex value"
  | .noScalar => "Escaped character is not a Unicode scalar value"
  | .unclosedArray => "Unclosed array"
  | .unclosedTable => "Unclosed inline table"
  | .repeatedKey key => "Duplicate inline table key " ++ quoted key
  | .declaredTwice key => "Cannot declare " ++ key.literal ++ " twice"
  | .immutable key => "Cannot mutate immutable namespace " ++ key.literal
  | .redefined key => "Cannot redefine namespace " ++ key.literal
  | .overwritten => "Cannot overwrite a value"
  | .noBracket => "Expected ']' at the end of a table declaration"
  | .noDoubleBracket => "Expected ']]' at the end of an array declaration"
  | .invalidDate => "Invalid date or datetime"
  | .invalidValue => "Invalid value"

inductive Fault where
  | complaint (complaint : Complaint) (rest : Text)
  | tooManyDigits (digits : Nat)
  | tooDeep
deriving DecidableEq

def complain {α : Type} (complaint : Complaint) (rest : Text) : Except Fault α :=
  .error (.complaint complaint rest)

/-- Line and column of the place where `rest` begins, both counted from 1. -/
def place (source rest : Text) : Text :=
  if rest.isEmpty then "end of document"
  else
    let before := source.take (source.length - rest.length)
    let line := before.count '\n' + 1
    let column := (before.reverse.takeWhile (· ≠ '\n')).length + 1
    "line " ++ decimal line ++ ", column " ++ decimal column

end SearchQuery.Toml
