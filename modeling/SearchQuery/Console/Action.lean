import SearchQuery.Console.Literal
import SearchQuery.Text.Blank
import SearchQuery.Text.Word

/-!
# Actions

A tag can name an action and give it arguments, which have to be literals.  Whether a text is a literal is told
from its tokens.  Signs and sums are for numbers only, and a sum makes a complex number of a real and an imaginary
one; members of sets and keys of mappings have to be hashable.
-/

set_option autoImplicit false

namespace SearchQuery.Console

/-- What matters of an expression to what stands around it. -/
inductive LiteralShape where
  | number (imaginary : Bool)
  | signed (imaginary : Bool)
  | value (hashable : Bool)
  /-- The name of the function that makes an empty set, which is no literal itself. -/
  | setMaker
deriving DecidableEq

namespace LiteralShape

def isHashable : LiteralShape → Bool
  | .value hashable => hashable
  | _ => true

/-- Whether a shape can be the first number of a sum. -/
def isReal (shape : LiteralShape) : Bool :=
  shape = .number false || shape = .signed false

end LiteralShape

namespace Literal

/-- A reader takes tokens from the front of a list. -/
abbrev Reader (α : Type) := List LiteralToken → Option (α × List LiteralToken)

/-- A reader of expressions that are literals. -/
def literal (item : Reader LiteralShape) : Reader LiteralShape := fun tokens => do
  let (shape, rest) ← item tokens
  guard (shape ≠ .setMaker)
  return (shape, rest)

/-- Items divided by commas up to a closing token.  A comma may stand behind the last one. -/
def items (item : Reader LiteralShape) (close : LiteralToken) : Nat → Reader (List LiteralShape)
  | 0, _ => none
  | limit + 1, tokens =>
    if tokens.head? = some close then some ([], tokens.drop 1)
    else
      match item tokens with
      | none => none
      | some (shape, .mark ',' :: rest) =>
        (items item close limit rest).map fun (shapes, after) => (shape :: shapes, after)
      | some (shape, rest) => if rest.head? = some close then some ([shape], rest.drop 1) else none

/-- What follows a first item, up to a closing token. -/
def moreItems (item : Reader LiteralShape) (close : LiteralToken) : Reader (List LiteralShape)
  | .mark ',' :: rest => items item close (rest.length + 1) rest
  | tokens => if tokens.head? = some close then some ([], tokens.drop 1) else none

/-- A key and its value. -/
def entry (item : Reader LiteralShape) : Reader LiteralShape := fun tokens => do
  let (key, rest) ← item tokens
  guard (rest.head? = some (.mark ':') && key.isHashable)
  item (rest.drop 1)

/-- One expression is itself, and several, or one with a comma behind it, are a tuple. -/
def tupleOrItem (item : Reader LiteralShape) (close : LiteralToken) : Reader LiteralShape :=
  fun tokens =>
    if tokens.head? = some close then some (.value true, tokens.drop 1)
    else do
      let (first, rest) ← item tokens
      let (shapes, after) ← moreItems (literal item) close rest
      if rest.head? = some (.mark ',') then
        guard (first ≠ .setMaker)
        return (.value ((first :: shapes).all LiteralShape.isHashable), after)
      return (first, after)

/-- A set or a mapping of literals, behind its opening brace. -/
def braces (item : Reader LiteralShape) : Reader LiteralShape := fun tokens =>
  let close := LiteralToken.mark '}'
  if tokens.head? = some close then some (.value false, tokens.drop 1)
  else do
    let (first, rest) ← item tokens
    guard first.isHashable
    if rest.head? = some (.mark ':') then
      let (_, rest) ← item (rest.drop 1)
      let (_, after) ← moreItems (entry item) close rest
      return (.value false, after)
    let (shapes, after) ← moreItems item close rest
    guard (shapes.all LiteralShape.isHashable)
    return (.value false, after)

/-- Whether a token is a text of the other kind than one before it. -/
def isOtherText (bytes : Bool) : LiteralToken → Bool
  | .text other => other ≠ bytes
  | _ => false

def isText : LiteralToken → Bool
  | .text _ => true
  | _ => false

def constants : List Text :=
  ["None".toList, "True".toList, "False".toList]

/-- The letters of the name of the function that makes an empty set, with the other characters that stand for
them. -/
def setLetters : List Text :=
  ["sſˢₛｓ𝐬𝑠𝒔𝓈𝓼𝔰𝕤𝖘𝗌𝘀𝘴𝙨𝚜".toList,
    "eᵉₑℯⅇｅ𝐞𝑒𝒆𝓮𝔢𝕖𝖊𝖾𝗲𝘦𝙚𝚎".toList,
    "tᵗₜｔ𝐭𝑡𝒕𝓉𝓽𝔱𝕥𝖙𝗍𝘁𝘵𝙩𝚝".toList]

def isSetName (name : Text) : Bool :=
  name.length = setLetters.length && (List.zipWith List.contains setLetters name).all id

/-- An expression without sign, sum and call. -/
def atom (item : Reader LiteralShape) : Reader LiteralShape
  | .number imaginary :: rest => some (.number imaginary, rest)
  | .text bytes :: rest =>
    if (rest.takeWhile isText).any (isOtherText bytes) then none
    else some (.value true, rest.dropWhile isText)
  | .ellipsis :: rest => some (.value true, rest)
  | .mark '(' :: rest => tupleOrItem item (.mark ')') rest
  | .mark '{' :: rest => braces (literal item) rest
  | .word name :: rest =>
    if name ∈ constants then some (.value true, rest)
    else if isSetName name then some (.setMaker, rest)
    else none
  | _ => none

/-- An expression without sign and sum. -/
def callOrAtom (item : Reader LiteralShape) : Reader LiteralShape := fun tokens => do
  let (shape, rest) ← atom item tokens
  if shape = .setMaker && rest.take 2 = [.mark '(', .mark ')'] then return (.value false, rest.drop 2)
  return (shape, rest)

def isSign (token : Option LiteralToken) : Bool :=
  token = some (.mark '+') || token = some (.mark '-')

def operand (item : Reader LiteralShape) : Reader LiteralShape := fun tokens =>
  if isSign tokens.head? then
    match callOrAtom item (tokens.drop 1) with
    | some (.number imaginary, rest) => some (.signed imaginary, rest)
    | _ => none
  else callOrAtom item tokens

/-- An operand, or the sum of two. -/
def expressionOf (item : Reader LiteralShape) : Reader LiteralShape := fun tokens => do
  let (first, rest) ← operand item tokens
  if isSign rest.head? then
    match callOrAtom item (rest.drop 1) with
    | some (.number true, after) =>
      guard (first.isReal && !isSign after.head?)
      return (.value true, after)
    | _ => none
  else return (first, rest)

/-- An expression in which brackets are nested less deeply than a limit. -/
def expression : Nat → Reader LiteralShape
  | 0 => fun _ => none
  | limit + 1 => expressionOf (expression limit)

/-- Whether tokens make a literal.  Brackets are nested less deeply than there are tokens. -/
def areLiteral (tokens : List LiteralToken) : Bool :=
  let line := (tokens.reverse.dropWhile (· = .lineFeed)).reverse
  !line.isEmpty &&
    match literal (tupleOrItem (expression line.length) .stop) (line ++ [.stop]) with
    | some (_, rest) => rest.isEmpty
    | none => false

/-- Whether a text is a literal. -/
def isLiteral (s : Text) : Bool :=
  areLiteral (tokens s)

/-- The warnings about a text that is no literal.  When an indented line follows a literal, nothing more is read. -/
def warnings (s : Text) : List Text :=
  if areLiteral ((tokens s).takeWhile (· ≠ .indent)) then []
  else (tokens s).filterMap (warning? ((withLineFeeds s).count '\n'))

end Literal

namespace Action

def isNameChar (c : Char) : Bool :=
  Text.isWord c || c = '.'

/-- The arguments of an action that is written as a name, perhaps with arguments in parentheses. -/
def arguments? (s : Text) : Option Text :=
  match s.dropWhile isNameChar with
  | [] => some ['(', ')']
  | '(' :: rest =>
    if rest.getLast? = some ')' && !rest.contains '\n' then some ('(' :: rest) else none
  | _ => none

/-- Reads the arguments of an action.  What is not written as an action is an argument itself.  Arguments that cannot
be read may give warnings. -/
def read (parameters : Text) : Except (List Text) Unit :=
  let trimmed := Text.trim parameters
  let arguments := (arguments? trimmed).getD trimmed
  if Literal.isLiteral arguments then .ok () else .error (Literal.warnings arguments)

end Action

end SearchQuery.Console
