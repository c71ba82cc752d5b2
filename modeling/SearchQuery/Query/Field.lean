import SearchQuery.Text.Basic

/-!
# Fields and operators

The attributes of an entry that can be searched, and the ways in which the words of a text match are
joined.
-/

set_option autoImplicit false

namespace SearchQuery

inductive Field where
  | channel
  | topic
  | title
  | description
  | duration
  | timestamp
deriving DecidableEq

namespace Field

def all : List Field :=
  [.channel, .topic, .title, .description, .duration, .timestamp]

def name : Field → Text
  | .channel => "channel"
  | .topic => "topic"
  | .title => "title"
  | .description => "description"
  | .duration => "duration"
  | .timestamp => "timestamp"

def ofName? (s : Text) : Option Field :=
  all.find? (·.name = s)

/-- Field names in which the case of the letters does not matter.  The only letters whose lower case is a letter
of a field name are the ASCII capitals. -/
def ofAnyCase? (s : Text) : Option Field :=
  ofName? (s.map Char.toLower)

/-- The names separated by commas. -/
def names (fields : List Field) : Text :=
  Text.join ", " (fields.map name)

end Field

inductive Operator where
  | all
  | any
deriving DecidableEq

namespace Operator

def name : Operator → Text
  | .all => "and"
  | .any => "or"

def ofName? (s : Text) : Option Operator :=
  [Operator.all, Operator.any].find? (·.name = s)

end Operator

/-- The list without repetitions, every member at its first place. -/
def distinct {α : Type} [DecidableEq α] (items : List α) : List α :=
  items.foldl (fun seen item => if item ∈ seen then seen else seen ++ [item]) []

theorem nodup_foldl_distinct {α : Type} [DecidableEq α] (items seen : List α) (nodup : seen.Nodup) :
    (items.foldl (fun seen item => if item ∈ seen then seen else seen ++ [item]) seen).Nodup := by
  induction items generalizing seen with
  | nil => exact nodup
  | cons item rest ih =>
    rw [List.foldl_cons]
    split
    · exact ih seen nodup
    · rename_i absent
      refine ih (seen ++ [item]) (List.nodup_append.2 ⟨nodup, by simp, ?_⟩)
      intro a member b single
      rw [List.mem_singleton.1 single]
      exact fun equal => absent (equal ▸ member)

theorem nodup_distinct {α : Type} [DecidableEq α] (items : List α) : (distinct items).Nodup :=
  nodup_foldl_distinct items [] List.nodup_nil

end SearchQuery
