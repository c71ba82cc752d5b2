import SearchQuery.Console.Print

/-!
# Drawing trees

A tree of marked-up labels is drawn with one line a node, unless its label has to be broken.  The lines of a
node's children stand behind guides that show which node they belong to.
-/

set_option autoImplicit false

namespace SearchQuery

inductive Tree where
  | node (label : Text) (children : List Tree)

namespace Tree

def branch : Text := "├── "

def lastBranch : Text := "└── "

def trunk : Text := "│   "

def gap : Text := "    "

/-- The lines of a child, its own line behind a branch and all others behind a guide. -/
def indent (own others : Text) : List Text → List Text
  | [] => []
  | first :: rest => (own ++ first) :: rest.map (others ++ ·)

mutual

/-- The lines of a tree in some columns. -/
def lines (columns : Nat) : Tree → Except Markup.Fault (List Text)
  | .node label children => do
    let own ← Console.present columns label
    let more ← childLines (columns - branch.length) children
    return own ++ more

def childLines (columns : Nat) : List Tree → Except Markup.Fault (List Text)
  | [] => .ok []
  | child :: rest => do
    let own ← lines columns child
    let more ← childLines columns rest
    return (if rest.isEmpty then indent lastBranch gap own else indent branch trunk own) ++ more

end

def print (tree : Tree) : Except Markup.Fault Text :=
  (tree.lines Console.allColumns).map Console.printed

end Tree

end SearchQuery
