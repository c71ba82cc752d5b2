import SearchQuery.Toml.Scalar
import SearchQuery.Toml.Table
import SearchQuery.Toml.Text

/-!
# Reading TOML documents

A document is a sequence of statements: entries, table headers and list headers.  What may follow what is
governed by three sets of keys.  Declared keys have had a header of their own or were made by dotted keys
under an earlier header, and may not get another header.  Frozen keys were given an inline value, and nothing
may be added at or below them.
-/

set_option autoImplicit false

namespace SearchQuery.Toml

open SearchQuery.Text

/-! ## Values -/

/-- The text behind a comment, if there is one. -/
def skipComment (s : Text) : Except Fault Text :=
  match s with
  | '#' :: rest =>
    let comment := rest.takeWhile (· ≠ '\n')
    let after := rest.dropWhile (· ≠ '\n')
    match comment.dropWhile (!isControl ·) with
    | [] => .ok after
    | c :: more => complain (.strayControl c) (c :: more ++ after)
  | _ => .ok s

/-- The text behind blanks, line feeds and comments. -/
def skipFiller : (fuel : Nat) → Text → Except Fault Text
  | 0, s => .ok s
  | fuel + 1, s => do
    let skipped := s.dropWhile isGapOrNewline
    let rest ← skipComment skipped
    if rest.length = s.length then return s else skipFiller fuel rest

def skipListFiller (s : Text) : Except Fault Text :=
  skipFiller (s.length + 1) s

def isCompound : Value → Bool
  | .list _ => true
  | .table _ => true
  | _ => false

/-- Whether something may be added at a key below which some keys are frozen. -/
def isFrozen (frozen : List Key) (key : Key) : Bool :=
  frozen.any (·.isPrefixOf key)

/-- Adds an entry of an inline table, of which some keys are frozen. -/
def addInline (frozen : List Key) (entries : Entries) (key : Key) (value : Value) (rest : Text) :
    Except Fault Entries :=
  let (path, last) := key.split
  if isFrozen frozen key then complain (.immutable key) rest
  else
    match entries.change? false some path with
    | none => complain .overwritten rest
    | some _ =>
      match entries.change? false (Entries.add? last value) path with
      | none => complain (.repeatedKey last) rest
      | some entries => .ok entries

/-- How deep values may be nested, in levels of which lists and inline tables take their share. -/
def maxLevels : Nat := 980

/-- The levels that a list takes. -/
def listLevels : Nat := 2

/-- The levels that an inline table takes. -/
def tableLevels : Nat := 3

/-- The levels left inside a value that takes some of them. -/
def descend (taken levels : Nat) : Except Fault Nat :=
  if levels < taken then .error .tooDeep else .ok (levels - taken)

mutual

/-- A value at the start of a text, within some levels of nesting. -/
def value : (fuel levels : Nat) → Text → Except Fault (Value × Text)
  | 0, _, s => complain .invalidValue s
  | fuel + 1, levels, s =>
    let asText (found : Except Fault (Text × Text)) : Except Fault (Value × Text) :=
      found.map fun (text, rest) => (.text text, rest)
    match s with
    | '"' :: rest =>
      match after? "\"\"" rest with
      | some rest => asText (multilineString '"' rest)
      | none => asText (basicString false (rest.length + 1) rest)
    | '\'' :: rest =>
      match after? "''" rest with
      | some rest => asText (multilineString '\'' rest)
      | none => asText (literalString false ['\''] rest)
    | '[' :: rest => do
      let levels ← descend listLevels levels
      let (items, rest) ← listItems fuel levels (← skipListFiller rest)
      return (.list items, rest)
    | '\x7b' :: rest => do
      let levels ← descend tableLevels levels
      match skipGap rest with
      | '\x7d' :: rest => return (.table [], rest)
      | rest =>
        let (entries, rest) ← inlineEntries fuel levels [] [] rest
        return (.table entries, rest)
    | _ => scalar s

/-- The items of a list up to its closing bracket. -/
def listItems : (fuel levels : Nat) → Text → Except Fault (List Value × Text)
  | 0, _, s => complain .unclosedArray s
  | fuel + 1, levels, s =>
    match s with
    | ']' :: rest => .ok ([], rest)
    | _ => do
      let (first, rest) ← value fuel levels s
      match ← skipListFiller rest with
      | ']' :: rest => return ([first], rest)
      | ',' :: rest =>
        let (more, rest) ← listItems fuel levels (← skipListFiller rest)
        return (first :: more, rest)
      | rest => complain .unclosedArray rest

/-- The entries of an inline table up to its closing brace. -/
def inlineEntries : (fuel levels : Nat) → List Key → Entries → Text → Except Fault (Entries × Text)
  | 0, _, _, _, s => complain .unclosedTable s
  | fuel + 1, levels, frozen, entries, s => do
    let (key, value, rest) ← pair fuel levels s
    let entries ← addInline frozen entries key value rest
    match skipGap rest with
    | '\x7d' :: rest => return (entries, rest)
    | ',' :: rest =>
      let frozen := if isCompound value then key :: frozen else frozen
      inlineEntries fuel levels frozen entries (skipGap rest)
    | rest => complain .unclosedTable rest

/-- A key and its value. -/
def pair : (fuel levels : Nat) → Text → Except Fault (Key × Value × Text)
  | 0, _, s => complain .noEquals s
  | fuel + 1, levels, s => do
    let (key, rest) ← readKey s
    match rest with
    | '=' :: rest =>
      let (value, rest) ← value fuel levels (skipGap rest)
      return (key, value, rest)
    | rest => complain .noEquals rest

end

/-! ## Statements -/

structure Draft where
  entries : Entries := []
  header : Key := []
  declared : List Key := []
  frozen : List Key := []
  /-- Keys that become declared at the next header. -/
  pending : List Key := []

namespace Draft

/-- The keys of the tables that a dotted key passes through, below the current header. -/
def passed (draft : Draft) (key : Key) : List Key :=
  (List.range (key.length - 1)).map fun n => draft.header ++ key.take (n + 1)

def addEntry (draft : Draft) (key : Key) (value : Value) (rest : Text) : Except Fault Draft :=
  let path := draft.header ++ key.dropLast
  match (draft.passed key).find? (· ∈ draft.declared) with
  | some declared => complain (.redefined declared) rest
  | none =>
    if isFrozen draft.frozen path then complain (.immutable path) rest
    else
      match draft.entries.change? true (Entries.add? key.split.2 value) path with
      | none => complain .overwritten rest
      | some entries =>
        let frozen := if isCompound value then (draft.header ++ key) :: draft.frozen else draft.frozen
        .ok { draft with entries, frozen, pending := draft.passed key ++ draft.pending }

/-- What a header does before anything else. -/
def settle (draft : Draft) : Draft :=
  { draft with declared := draft.pending ++ draft.declared, pending := [] }

def openTable (draft : Draft) (key : Key) (rest : Text) : Except Fault Draft :=
  if key ∈ draft.declared || isFrozen draft.frozen key then complain (.declaredTwice key) rest
  else
    match draft.entries.change? true some key with
    | none => complain .overwritten rest
    | some entries => .ok { draft with entries, header := key, declared := key :: draft.declared }

/-- A list header frees everything below its key, since it opens another, empty table. -/
def openList (draft : Draft) (key : Key) (rest : Text) : Except Fault Draft :=
  let (path, last) := key.split
  if isFrozen draft.frozen key then complain (.immutable key) rest
  else
    match draft.entries.change? true (Entries.addTable? last) path with
    | none => complain .overwritten rest
    | some entries =>
      let free (keys : List Key) : List Key := keys.filter (!key.isPrefixOf ·)
      .ok { draft with
        entries
        header := key
        declared := key :: free draft.declared
        frozen := free draft.frozen }

end Draft

/-- A header, behind its first bracket. -/
def headerStatement (draft : Draft) (s : Text) : Except Fault (Draft × Text) :=
  let draft := draft.settle
  match s with
  | '[' :: rest => do
    let (key, rest) ← readKey (skipGap rest)
    let draft ← draft.openList key rest
    match after? "]]" rest with
    | some rest => return (draft, rest)
    | none => complain .noDoubleBracket rest
  | _ => do
    let (key, rest) ← readKey (skipGap s)
    let draft ← draft.openTable key rest
    match after? "]" rest with
    | some rest => return (draft, rest)
    | none => complain .noBracket rest

def isKeyStart (c : Char) : Bool :=
  isBareKeyChar c || c = '"' || c = '\''

/-- A statement at the start of a text that is not blank there; a comment is none. -/
def statement (draft : Draft) (s : Text) : Except Fault (Draft × Text) :=
  match s with
  | '[' :: rest => headerStatement draft rest
  | '#' :: _ => .ok (draft, s)
  | c :: _ =>
    if isKeyStart c then do
      let (key, value, rest) ← pair (2 * s.length + 2) maxLevels s
      return (← draft.addEntry key value rest, rest)
    else complain .invalidStatement s
  | [] => .ok (draft, [])

/-- All statements of a text, each on lines of its own. -/
def statements : (fuel : Nat) → Draft → Text → Except Fault Draft
  | 0, draft, _ => .ok draft
  | fuel + 1, draft, s =>
    match skipGap s with
    | [] => .ok draft
    | '\n' :: rest => statements fuel draft rest
    | s => do
      let (draft, rest) ← statement draft s
      match ← skipComment (skipGap rest) with
      | [] => return draft
      | '\n' :: rest => statements fuel draft rest
      | rest => complain .trailingText rest

/-! ## Documents -/

/-- Why a text is no document. -/
inductive Error where
  | malformed (complaint : Complaint) (place : Text)
  | tooManyDigits (digits : Nat)
  | tooDeep
deriving DecidableEq

def Error.message : Error → Text
  | .malformed complaint place => complaint.message ++ " (at " ++ place ++ ")"
  | .tooManyDigits digits => Numeral.tooLongToRead digits
  | .tooDeep => "Values are nested too deep"

/-- The text with every pair of carriage return and line feed made a line feed. -/
def unixLines : Text → Text
  | '\r' :: '\n' :: rest => '\n' :: unixLines rest
  | c :: rest => c :: unixLines rest
  | [] => []

/-- The entries of a document. -/
def read (text : Text) : Except Error Entries :=
  let source := unixLines text
  match statements (source.length + 1) {} source with
  | .ok draft => .ok draft.entries
  | .error (.complaint complaint rest) => .error (.malformed complaint (place source rest))
  | .error (.tooManyDigits digits) => .error (.tooManyDigits digits)
  | .error .tooDeep => .error .tooDeep

end SearchQuery.Toml
