import SearchQuery.Query.Basic

/-!
# Queries as documents

A query is handed on as a document of nested tables.  Open bounds and empty groups of clauses are left
out, and dates become texts.  A query with a foreign clause has no document; the first such clause, in
the order in which the document lists them, is reported.
-/

set_option autoImplicit false

namespace SearchQuery

open SearchQuery.Text

def TextMatch.toValue (leaf : TextMatch) : Value :=
  .table [("text".toList, .table [
    ("fields".toList, .list (leaf.fields.map fun field => .text field.name)),
    ("text".toList, .text leaf.text),
    ("operator".toList, .text leaf.operator.name)])]

/-- A table entry for a bound, or none for an open side. -/
def Range.boundEntry (key : Text) : Option Bound → List (Text × Value)
  | none => []
  | some bound => [(key, bound.toValue)]

def Range.toValue (leaf : Range) : Value :=
  .table [("range".toList, .table (
    ("field".toList, .text leaf.field.name) ::
      boundEntry "min" leaf.min ++ boundEntry "max" leaf.max))]

namespace Query

/-- A table entry for a group of clauses, or none for an empty group. -/
def groupEntry (key : Text) (clauses : List Value) : List (Text × Value) :=
  if clauses.isEmpty then [] else [(key, .list clauses)]

mutual

def toValue : Query → Except Value Value
  | .text leaf => .ok leaf.toValue
  | .range leaf => .ok leaf.toValue
  | .bool must mustNot should => do
    let must ← toValues must
    let mustNot ← toValues mustNot
    let should ← toValues should
    return .table [("bool".toList, .table (
      groupEntry "must" must ++ groupEntry "must_not" mustNot ++ groupEntry "should" should))]
  | .foreign value => .error value

def toValues : List Query → Except Value (List Value)
  | [] => .ok []
  | clause :: rest => do
    let first ← toValue clause
    let more ← toValues rest
    return first :: more

end

/-- The complaint about a foreign clause, unless it cannot be written out. -/
def foreignMessage? (value : Value) : Option Text :=
  value.literal?.map ("Not a query node: " ++ ·)

end Query

end SearchQuery
