import Mathlib.Data.Nat.Digits.Defs
import SearchQuery.Proofs.Compile.WellFormed
import SearchQuery.Proofs.Console.Nesting
import SearchQuery.Query.Document
import SearchQuery.Query.Literal

/-!
# Queries that can be shown

Whatever text a query looks for, it can be shown as a tree and as a document.  The only obstacle is a bound that is an
integer of more digits than can be written.
-/

set_option autoImplicit false

namespace SearchQuery

open SearchQuery.Markup

/-! ## Labels -/

theorem Text.mem_join {separator : Text} {parts : List Text} {c : Char} (member : c ∈ join separator parts) :
    c ∈ separator ∨ ∃ part ∈ parts, c ∈ part := by
  induction parts with
  | nil => cases member
  | cons first rest ih =>
    cases rest with
    | nil =>
      rw [join, List.intercalate_singleton] at member
      exact .inr ⟨first, List.mem_cons_self, member⟩
    | cons second more =>
      rw [join, List.intercalate_cons_cons, List.mem_append, List.mem_append] at member
      rcases member with (own | separating) | later
      · exact .inr ⟨first, List.mem_cons_self, own⟩
      · exact .inl separating
      · rcases ih later with separating | ⟨part, inParts, inPart⟩
        · exact .inl separating
        · exact .inr ⟨part, List.mem_cons_of_mem _ inParts, inPart⟩

theorem Field.unmarked_name (field : Field) : field.name.all isUnmarked = true := by
  cases field <;> decide

theorem Field.unmarked_names (fields : List Field) : (names fields).all isUnmarked = true := by
  refine List.all_eq_true.2 fun c member => ?_
  rcases Text.mem_join member with separating | ⟨part, inParts, inPart⟩
  · have unmarked : ", ".toList.all isUnmarked = true := by decide
    exact List.all_eq_true.1 unmarked c separating
  · obtain ⟨field, -, rfl⟩ := List.mem_map.1 inParts
    exact List.all_eq_true.1 field.unmarked_name c inPart

theorem TextMatch.safe_label (leaf : TextMatch) : Safe leaf.label := by
  have operator : Safe (" (" ++ leaf.operator.name ++ ")") := by
    refine .of_noBracket ?_
    cases leaf.operator <;> decide
  have value := (operator.styled (isStyle_of_mem "query.value" (by decide))
    List.all_nil (Text.quoted leaf.text))
  have field := (value.unmarked_append (s := " ~ ".toList) (by decide)).styled_unmarked
    (isStyle_of_mem "query.field" (by decide)) (Field.unmarked_names leaf.fields)
  simpa [label] using field

theorem Range.safe_label {leaf : Range} {label : Text} (labelled : leaf.label? = some label) : Safe label := by
  obtain ⟨low, -, labelled⟩ := Option.bind_eq_some_iff.1 labelled
  obtain ⟨high, -, labelled⟩ := Option.bind_eq_some_iff.1 labelled
  cases labelled
  have bounds := (Safe.escape ('[' :: low ++ " .. " ++ high ++ "]")).unmarked_append (s := " in ".toList) (by decide)
  have field := bounds.styled_unmarked (isStyle_of_mem "query.field" (by decide))
    leaf.field.unmarked_name
  simpa using field

/-! ## Trees -/

namespace Tree

mutual

/-- All labels of a tree. -/
def labels : Tree → List Text
  | .node label children => label :: labelsOf children

def labelsOf : List Tree → List Text
  | [] => []
  | child :: rest => labels child ++ labelsOf rest

end

theorem labelsOf_append (first second : List Tree) :
    labelsOf (first ++ second) = labelsOf first ++ labelsOf second := by
  induction first with
  | nil => simp [labelsOf]
  | cons child rest ih => simp [labelsOf, ih]

mutual

/-- A tree of safe labels can be drawn. -/
theorem exists_lines (columns : Nat) :
    ∀ tree : Tree, (∀ label ∈ tree.labels, Safe label) → ∃ lines, tree.lines columns = .ok lines
  | .node label children, safe => by
    rw [labels, List.forall_mem_cons] at safe
    obtain ⟨own, presented⟩ := safe.1.exists_present columns
    obtain ⟨more, drawn⟩ := exists_childLines (columns - branch.length) children safe.2
    exact ⟨own ++ more, by rw [lines, presented, drawn]; rfl⟩

theorem exists_childLines (columns : Nat) :
    ∀ children : List Tree, (∀ label ∈ labelsOf children, Safe label) →
      ∃ lines, childLines columns children = .ok lines
  | [], _ => ⟨[], by rw [childLines]⟩
  | child :: rest, safe => by
    rw [labelsOf, List.forall_mem_append] at safe
    obtain ⟨own, ownDrawn⟩ := exists_lines columns child safe.1
    obtain ⟨more, moreDrawn⟩ := exists_childLines columns rest safe.2
    exact ⟨_, by rw [childLines, ownDrawn, moreDrawn]; rfl⟩

end

end Tree

namespace Query

open SearchQuery.Tree (labels labelsOf labelsOf_append)

theorem safe_heading {style name : Text} (own : style ∈ ownStyles) (unmarked : name.all isUnmarked = true) :
    Safe (styled style name) := by
  have heading := Safe.nil.styled_unmarked (isStyle_of_mem style own) unmarked
  rwa [List.append_nil] at heading

theorem safe_groupNode {style name : Text} {clauses : List Tree} (own : style ∈ ownStyles)
    (unmarked : name.all isUnmarked = true) (safe : ∀ label ∈ labelsOf clauses, Safe label) :
    ∀ label ∈ labelsOf (groupNode style name clauses), Safe label := by
  rw [groupNode]
  split
  next => simp [labelsOf]
  next =>
    rw [labelsOf, labels, labelsOf, List.append_nil]
    exact List.forall_mem_cons.2 ⟨safe_heading own unmarked, safe⟩

mutual

/-- The labels of a query's tree are safe. -/
theorem safe_of_tree? : ∀ (query : Query) {tree : Tree}, query.tree? = some tree →
    ∀ label ∈ tree.labels, Safe label
  | .text leaf, tree, drawn => by
    rw [tree?] at drawn
    cases drawn
    simpa [labels, labelsOf] using leaf.safe_label
  | .range leaf, tree, drawn => by
    rw [tree?] at drawn
    obtain ⟨label, labelled, rfl⟩ := Option.map_eq_some_iff.1 drawn
    simpa [labels, labelsOf] using Range.safe_label labelled
  | .bool must mustNot should, tree, drawn => by
    rw [tree?] at drawn
    obtain ⟨mustTrees, mustDrawn, drawn⟩ := Option.bind_eq_some_iff.1 drawn
    obtain ⟨mustNotTrees, mustNotDrawn, drawn⟩ := Option.bind_eq_some_iff.1 drawn
    obtain ⟨shouldTrees, shouldDrawn, drawn⟩ := Option.bind_eq_some_iff.1 drawn
    cases drawn
    rw [labels, labelsOf_append, labelsOf_append]
    refine List.forall_mem_cons.2 ⟨safe_heading (by decide) (by decide), List.forall_mem_append.2
      ⟨List.forall_mem_append.2 ⟨?_, ?_⟩, ?_⟩⟩
    · exact safe_groupNode (by decide) (by decide) (safe_of_trees? must mustDrawn)
    · exact safe_groupNode (by decide) (by decide) (safe_of_trees? mustNot mustNotDrawn)
    · exact safe_groupNode (by decide) (by decide) (safe_of_trees? should shouldDrawn)
  | .foreign value, tree, drawn => by
    rw [tree?] at drawn
    cases drawn
    rw [labels, labelsOf]
    exact List.forall_mem_singleton.2 (safe_heading (by decide) (by decide))

theorem safe_of_trees? : ∀ (clauses : List Query) {trees : List Tree}, trees? clauses = some trees →
    ∀ label ∈ labelsOf trees, Safe label
  | [], trees, drawn => by
    rw [trees?] at drawn
    cases drawn
    simp [labelsOf]
  | clause :: rest, trees, drawn => by
    rw [trees?] at drawn
    obtain ⟨first, firstDrawn, drawn⟩ := Option.bind_eq_some_iff.1 drawn
    obtain ⟨more, moreDrawn, drawn⟩ := Option.bind_eq_some_iff.1 drawn
    cases drawn
    rw [labelsOf]
    exact List.forall_mem_append.2 ⟨safe_of_tree? clause firstDrawn, safe_of_trees? rest moreDrawn⟩

end

end Query

/-! ## Bounds that can be written -/

/-- An integer must not have too many digits. -/
def Bound.IsShort : Bound → Prop
  | .integer n => n.natAbs < 10 ^ Numeral.maxDigits
  | _ => True

def Range.IsShort (range : Range) : Prop :=
  (∀ bound ∈ range.min, bound.IsShort) ∧ ∀ bound ∈ range.max, bound.IsShort

/-- All bounds of a query can be written. -/
def Query.IsShort (query : Query) : Prop :=
  ∀ range, .range range ∈ query.leaves → range.IsShort

theorem Bound.isSome_write?_iff (bound : Bound) : bound.write?.isSome = true ↔ bound.IsShort := by
  cases bound with
  | integer n =>
    have digits : (Text.decimal n.natAbs).length ≤ Numeral.maxDigits ↔ n.natAbs < 10 ^ Numeral.maxDigits :=
      Nat.length_toDigits_le_iff (by decide) (by decide)
    rw [write?, Numeral.writeInteger?, IsShort, ← digits]
    split
    next tooLong => simp [tooLong]
    next short => simpa using short
  | real x => simp [write?, IsShort]
  | date d => simp [write?, IsShort]

theorem Bound.isSome_literal?_iff (side : Option Bound) :
    (Bound.literal? side).isSome = true ↔ ∀ bound ∈ side, bound.IsShort := by
  cases side with
  | none => simp [literal?]
  | some bound =>
    simp only [Option.mem_def, Option.some.injEq, forall_eq']
    cases bound with
    | date d => simp [literal?, IsShort]
    | integer n => exact isSome_write?_iff (.integer n)
    | real x => exact isSome_write?_iff (.real x)

theorem Bound.isSome_label?_iff (side : Option Bound) :
    (Bound.label? side).isSome = true ↔ ∀ bound ∈ side, bound.IsShort := by
  cases side with
  | none => simp [label?]
  | some bound =>
    simp only [Option.mem_def, Option.some.injEq, forall_eq']
    exact bound.isSome_write?_iff

theorem Range.isSome_literal?_iff (range : Range) : range.literal?.isSome = true ↔ range.IsShort := by
  rw [IsShort, ← Bound.isSome_literal?_iff, ← Bound.isSome_literal?_iff, literal?]
  cases Bound.literal? range.min <;> cases Bound.literal? range.max <;> simp

theorem Range.isSome_label?_iff (range : Range) : range.label?.isSome = true ↔ range.IsShort := by
  rw [IsShort, ← Bound.isSome_label?_iff, ← Bound.isSome_label?_iff, label?]
  cases Bound.label? range.min <;> cases Bound.label? range.max <;> simp

namespace Query

mutual

theorem isSome_literal?_iff : ∀ query : Query,
    query.literal?.isSome = true ↔ ∀ leaf ∈ query.leaves, leaf.literal?.isSome = true
  | .text leaf => by simp [leaves]
  | .range leaf => by simp [leaves]
  | .foreign value => by simp [leaves]
  | .bool must mustNot should => by
    rw [leaves, List.forall_mem_append, List.forall_mem_append, ← isSome_literals?_iff must,
      ← isSome_literals?_iff mustNot, ← isSome_literals?_iff should, literal?]
    cases literals? must <;> cases literals? mustNot <;> cases literals? should <;> simp

theorem isSome_literals?_iff : ∀ clauses : List Query,
    (literals? clauses).isSome = true ↔ ∀ leaf ∈ leavesOf clauses, leaf.literal?.isSome = true
  | [] => by simp [literals?, leavesOf]
  | clause :: rest => by
    rw [leavesOf, List.forall_mem_append, ← isSome_literal?_iff clause, ← isSome_literals?_iff rest, literals?]
    cases literal? clause <;> cases literals? rest <;> simp

end

mutual

theorem isSome_tree?_iff : ∀ query : Query,
    query.tree?.isSome = true ↔ ∀ leaf ∈ query.leaves, leaf.tree?.isSome = true
  | .text leaf => by simp [leaves]
  | .range leaf => by simp [leaves]
  | .foreign value => by simp [leaves]
  | .bool must mustNot should => by
    rw [leaves, List.forall_mem_append, List.forall_mem_append, ← isSome_trees?_iff must,
      ← isSome_trees?_iff mustNot, ← isSome_trees?_iff should, tree?]
    cases trees? must <;> cases trees? mustNot <;> cases trees? should <;> simp

theorem isSome_trees?_iff : ∀ clauses : List Query,
    (trees? clauses).isSome = true ↔ ∀ leaf ∈ leavesOf clauses, leaf.tree?.isSome = true
  | [] => by simp [trees?, leavesOf]
  | clause :: rest => by
    rw [leavesOf, List.forall_mem_append, ← isSome_tree?_iff clause, ← isSome_trees?_iff rest, trees?]
    cases tree? clause <;> cases trees? rest <;> simp

end

mutual

theorem exists_toValue : ∀ query : Query, (∀ leaf ∈ query.leaves, leaf.isLeaf = true) →
    ∃ document, query.toValue = .ok document
  | .text leaf, _ => ⟨_, by rw [toValue]⟩
  | .range leaf, _ => ⟨_, by rw [toValue]⟩
  | .foreign value, own => by
    rw [leaves, List.forall_mem_singleton] at own
    cases own
  | .bool must mustNot should, own => by
    rw [leaves, List.forall_mem_append, List.forall_mem_append] at own
    obtain ⟨mustValues, mustWritten⟩ := exists_toValues must own.1.1
    obtain ⟨mustNotValues, mustNotWritten⟩ := exists_toValues mustNot own.1.2
    obtain ⟨shouldValues, shouldWritten⟩ := exists_toValues should own.2
    exact ⟨_, by rw [toValue, mustWritten, mustNotWritten, shouldWritten]; rfl⟩

theorem exists_toValues : ∀ clauses : List Query, (∀ leaf ∈ leavesOf clauses, leaf.isLeaf = true) →
    ∃ documents, toValues clauses = .ok documents
  | [], _ => ⟨[], by rw [toValues]⟩
  | clause :: rest, own => by
    rw [leavesOf, List.forall_mem_append] at own
    obtain ⟨first, firstWritten⟩ := exists_toValue clause own.1
    obtain ⟨more, moreWritten⟩ := exists_toValues rest own.2
    exact ⟨first :: more, by rw [toValues, firstWritten, moreWritten]; rfl⟩

end

theorem forall_leaves_iff_isShort {query : Query} (own : ∀ leaf ∈ query.leaves, leaf.isLeaf = true)
    {shown : Query → Bool} (text : ∀ leaf, shown (.text leaf) = true)
    (range : ∀ leaf, shown (.range leaf) = true ↔ leaf.IsShort) :
    (∀ leaf ∈ query.leaves, shown leaf = true) ↔ query.IsShort := by
  constructor
  · intro all leaf member
    exact (range leaf).1 (all _ member)
  · intro short leaf member
    cases leaf with
    | text leaf => exact text leaf
    | range leaf => exact (range leaf).2 (short leaf member)
    | bool _ _ _ => cases own _ member
    | foreign _ => cases own _ member

/-- A query of leaves has a tree exactly if its bounds can be written. -/
theorem isSome_tree?_iff_isShort {query : Query} (own : ∀ leaf ∈ query.leaves, leaf.isLeaf = true) :
    query.tree?.isSome = true ↔ query.IsShort :=
  (isSome_tree?_iff query).trans <| forall_leaves_iff_isShort own (fun _ => by rw [tree?]; rfl)
    fun leaf => by rw [tree?, Option.isSome_map, Range.isSome_label?_iff]

end Query

end SearchQuery
