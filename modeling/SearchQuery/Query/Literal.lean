import SearchQuery.Query.Basic

/-!
# Queries as literals

A one-line text of a query that names every part of it, for diagnosis.  It exists unless some bound is
an integer of too many digits.
-/

set_option autoImplicit false

namespace SearchQuery

open SearchQuery.Text

/-- A bracketed sequence, in which a single item is followed by a comma. -/
def sequenceLiteral : List Text → Text
  | [item] => '(' :: item ++ ",)"
  | items => '(' :: join ", " items ++ ")"

def Field.literal (field : Field) : Text :=
  "<Field." ++ field.name.map Char.toUpper ++ ": " ++ quoted field.name ++ ">"

def Operator.literal (operator : Operator) : Text :=
  "<Operator." ++ operator.name.map Char.toUpper ++ ": " ++ quoted operator.name ++ ">"

def Date.literal (d : Date) : Text :=
  "datetime.date(" ++ decimal d.year ++ ", " ++ decimal d.month ++ ", " ++ decimal d.day ++ ")"

def Bound.literal? : Option Bound → Option Text
  | none => some "None"
  | some (.date d) => some d.literal
  | some bound => bound.write?

def TextMatch.literal (leaf : TextMatch) : Text :=
  "TextMatch(fields=" ++ sequenceLiteral (leaf.fields.map Field.literal) ++
    ", text=" ++ quoted leaf.text ++ ", operator=" ++ leaf.operator.literal ++ ")"

def Range.literal? (leaf : Range) : Option Text := do
  let low ← Bound.literal? leaf.min
  let high ← Bound.literal? leaf.max
  return "Range(field=" ++ leaf.field.literal ++ ", min=" ++ low ++ ", max=" ++ high ++ ")"

namespace Query

mutual

def literal? : Query → Option Text
  | .text leaf => some leaf.literal
  | .range leaf => leaf.literal?
  | .bool must mustNot should => do
    let must ← literals? must
    let mustNot ← literals? mustNot
    let should ← literals? should
    return "Bool(must=" ++ sequenceLiteral must ++ ", must_not=" ++ sequenceLiteral mustNot ++
      ", should=" ++ sequenceLiteral should ++ ")"
  | .foreign value => value.literal?

def literals? : List Query → Option (List Text)
  | [] => some []
  | clause :: rest => do
    let first ← literal? clause
    let more ← literals? rest
    return first :: more

end

end Query

end SearchQuery
