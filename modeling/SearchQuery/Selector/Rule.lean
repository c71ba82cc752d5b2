import SearchQuery.Text.Blank
import SearchQuery.Text.Fold
import SearchQuery.Text.Quoted

/-!
# Selector rules

A rule lists the spellings that designate a field: names, of which every abbreviation will do in any
case, and one-character symbols, which are matched exactly.  Names are kept in folded form, and a rule holds
only spellings that passed their check.
-/

set_option autoImplicit false

namespace SearchQuery

/-- Why a spelling is refused. -/
inductive SpellingFault where
  | emptyName
  | leadingDash (name : Text)
  | reservedInName (name : Text)
  | notSingle (symbol : Text)
  | reservedSymbol (symbol : Text)
deriving DecidableEq

def SpellingFault.message : SpellingFault → Text
  | .emptyName => "selector names must not be empty"
  | .leadingDash name => "selector name " ++ Text.quoted name ++ " must not start with '-'"
  | .reservedInName name => "selector name " ++ Text.quoted name ++ " contains a reserved character"
  | .notSingle symbol => "selector symbol " ++ Text.quoted symbol ++ " must be a single character"
  | .reservedSymbol symbol => "selector symbol " ++ Text.quoted symbol ++ " is reserved"

namespace Selector

open SearchQuery.Text

/-- The characters that end or divide a selector when they are typed plainly. -/
def isReserved (c : Char) : Bool :=
  isBlank c || c = ':' || c = '"' || c = '\\'

/-- The folded form of a name that can be typed as a selector. -/
def checkName (name : Text) : Except SpellingFault Text :=
  if name.isEmpty then .error .emptyName
  else if name.head? = some '-' then .error (.leadingDash name)
  else if name.any isReserved then .error (.reservedInName name)
  else .ok (fold name)

/-- Whether a character may be a symbol. -/
def isSymbol (c : Char) : Bool :=
  !isReserved c && c ≠ '-'

/-- The character of a symbol that can be typed as a selector. -/
def checkSymbol (symbol : Text) : Except SpellingFault Char :=
  match symbol with
  | [c] => if isSymbol c then .ok c else .error (.reservedSymbol symbol)
  | _ => .error (.notSingle symbol)

/-- The folded forms of the names that can be typed. -/
def IsName (name : Text) : Prop :=
  ∃ typed, checkName typed = .ok name

/-- Whether a name can be typed and is its own folded form. -/
def isFoldedName (name : Text) : Bool :=
  match checkName name with
  | .ok folded => folded = name
  | .error _ => false

theorem isName_of_isFoldedName {name : Text} (folded : isFoldedName name = true) : IsName name := by
  unfold isFoldedName at folded
  split at folded
  · rename_i checked
    exact ⟨name, checked.trans (congrArg Except.ok (of_decide_eq_true folded))⟩
  · cases folded

theorem isSymbol_of_checkSymbol {symbol : Text} {c : Char} (checked : checkSymbol symbol = .ok c) :
    isSymbol c = true := by
  unfold checkSymbol at checked
  split at checked
  · split at checked
    · cases checked
      assumption
    · cases checked
  · cases checked

/-- What holds of every result of a check holds of all results of checking a list. -/
theorem forall_of_mapM_ok {α β ε : Type} {check : α → Except ε β} {P : β → Prop}
    (each : ∀ a b, check a = .ok b → P b) {items : List α} {results : List β}
    (checked : items.mapM check = .ok results) : ∀ b ∈ results, P b := by
  induction items generalizing results with
  | nil =>
    cases checked
    simp
  | cons first rest ih =>
    rw [List.mapM_cons] at checked
    cases firstChecked : check first with
    | error e => simp [firstChecked, bind, Except.bind] at checked
    | ok b =>
      cases restChecked : rest.mapM check with
      | error e => simp [firstChecked, restChecked, bind, Except.bind] at checked
      | ok bs =>
        simp only [firstChecked, restChecked, bind, Except.bind, pure, Except.pure] at checked
        cases checked
        intro result member
        rcases List.mem_cons.1 member with rfl | member
        · exact each first result firstChecked
        · exact ih restChecked result member

end Selector

structure Rule where
  canonical : Text
  aliases : List Text
  symbols : List Char
  namesChecked : ∀ name ∈ canonical :: aliases, Selector.IsName name
  symbolsChecked : ∀ symbol ∈ symbols, Selector.isSymbol symbol = true
deriving DecidableEq

namespace Rule

open SearchQuery.Text SearchQuery.Selector

/-- Checks the canonical name first, then the aliases, then the symbols. -/
def make (canonical : Text) (aliases symbols : List Text) : Except SpellingFault Rule :=
  match canonicalChecked : checkName canonical, aliasesChecked : aliases.mapM checkName,
    symbolsChecked : symbols.mapM checkSymbol with
  | .error fault, _, _ => .error fault
  | _, .error fault, _ => .error fault
  | _, _, .error fault => .error fault
  | .ok name, .ok names, .ok characters => .ok {
      canonical := name
      aliases := names
      symbols := characters
      namesChecked := List.forall_mem_cons.2
        ⟨⟨canonical, canonicalChecked⟩, forall_of_mapM_ok (fun a _ ok => ⟨a, ok⟩) aliasesChecked⟩
      symbolsChecked := forall_of_mapM_ok (fun _ _ => isSymbol_of_checkSymbol) symbolsChecked }

/-- The rule of spellings that are in folded form already. -/
def ofFolded (canonical : Text) (aliases : List Text) (symbols : List Char)
    (namesFolded : (canonical :: aliases).all isFoldedName = true)
    (symbolsChecked : symbols.all isSymbol = true) : Rule where
  canonical := canonical
  aliases := aliases
  symbols := symbols
  namesChecked := fun name member => isName_of_isFoldedName (List.all_eq_true.1 namesFolded name member)
  symbolsChecked := List.all_eq_true.1 symbolsChecked

/-- The canonical name and the aliases. -/
def names (rule : Rule) : List Text :=
  rule.canonical :: rule.aliases

/-- All spellings of the rule. -/
def spellings (rule : Rule) : List Text :=
  rule.names ++ rule.symbols.map ([·])

/-- Whether a token designates the rule's field: as one of its symbols, or as an abbreviation of one
of its names. -/
def designates (rule : Rule) (token : Text) : Bool :=
  !token.isEmpty &&
    (rule.symbols.any (fun symbol => [symbol] = token) ||
      rule.names.any (fun name => (fold token).isPrefixOf name))

/-- The first character that two names have in common. -/
def sharedInitial? : Text → Text → Option Char
  | a :: _, b :: _ => if a = b then some a else none
  | _, _ => none

/-- A one-character token that designates the fields of both rules.  Two names share an abbreviation
exactly when they begin with the same character, so initials stand for all of them. -/
def conflict? (rule other : Rule) : Option Char :=
  (rule.names.findSome? fun name => other.names.findSome? (sharedInitial? name)) <|>
    rule.symbols.find? (fun symbol => other.designates [symbol]) <|>
    other.symbols.find? (fun symbol => rule.designates [symbol])

end Rule

end SearchQuery
