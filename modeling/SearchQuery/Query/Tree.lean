import SearchQuery.Console.Tree
import SearchQuery.Query.Basic

/-!
# Queries as trees

The tree that shows a query has a node for every leaf, every combination and every group of clauses that
is not empty.  Labels are marked up; what comes from the query is escaped.
-/

set_option autoImplicit false

namespace SearchQuery

open SearchQuery.Text

/-- A text between the tags of a style. -/
def styled (style s : Text) : Text :=
  '[' :: style ++ "]" ++ s ++ "[/" ++ style ++ "]"

def TextMatch.label (leaf : TextMatch) : Text :=
  styled "query.field" (Field.names leaf.fields) ++ " ~ " ++
    styled "query.value" (Markup.escape (quoted leaf.text)) ++
    " (" ++ leaf.operator.name ++ ")"

/-- The text of a bound, empty for an open side. -/
def Bound.label? : Option Bound → Option Text
  | none => some []
  | some bound => bound.write?

def Range.label? (leaf : Range) : Option Text := do
  let low ← Bound.label? leaf.min
  let high ← Bound.label? leaf.max
  return styled "query.field" leaf.field.name ++ " in " ++
    Markup.escape ('[' :: low ++ " .. " ++ high ++ "]")

namespace Query

/-- The node of a group of clauses, or none for an empty group. -/
def groupNode (style name : Text) (clauses : List Tree) : List Tree :=
  if clauses.isEmpty then [] else [.node (styled style name) clauses]

mutual

/-- The tree of a query, unless a bound has too many digits to be written. -/
def tree? : Query → Option Tree
  | .text leaf => some (.node leaf.label [])
  | .range leaf => leaf.label?.map (.node · [])
  | .bool must mustNot should => do
    let must ← trees? must
    let mustNot ← trees? mustNot
    let should ← trees? should
    return .node (styled "query.bool" "bool") (groupNode "query.bool" "must" must ++
      groupNode "query.negated" "must_not" mustNot ++ groupNode "query.bool" "should" should)
  | .foreign _ => some (.node (styled "query.bool" "bool") [])

def trees? : List Query → Option (List Tree)
  | [] => some []
  | clause :: rest => do
    let first ← tree? clause
    let more ← trees? rest
    return first :: more

end

end Query

end SearchQuery
