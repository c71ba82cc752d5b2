import SearchQuery.Proofs.Console.Reading
import SearchQuery.Proofs.Query.Shown

/-!
# Labels of queries

The tree that shows a query has one leaf for each leaf of the query, in the same order.  Whatever text a query looks
for, it stands in a label as text: the only tags of the label are those of its own styles, each around the part that it
is for, and what is left is the text of the label with nothing added or lost.
-/

set_option autoImplicit false

namespace SearchQuery

open SearchQuery.Text SearchQuery.Markup

/-! ## What labels show -/

/-- A text, the tags in it, and the spans that these open and close. -/
structure Marking where
  text : Text
  tags : List Text
  spans : List Span

/-- By the rule for tags the label has the text, the tags and the spans, and it is rendered so unless a backslash stands
right before an opening bracket in the text. -/
structure Marking.IsOf (marking : Marking) (label : Text) : Prop where
  text : (reading label).flatMap Piece.text = marking.text
  tags : (reading label).filterMap Piece.tag? = marking.tags
  spans : Markup.spans [] 0 (reading label) = .ok marking.spans
  rendered : Unescaped marking.text → render label = .ok ⟨marking.text, marking.spans⟩

theorem Markup.ReadsAs.isOf {label text : Text} {tags : List Text} {found : Nat → List Span}
    (reads : ReadsAs label text tags found) : Marking.IsOf ⟨text, tags, found 0⟩ label :=
  ⟨reads.text, reads.tags, reads.spans 0, reads.render_eq⟩

/-- The names of the fields and the quoted text, each in its style, and the operator. -/
def TextMatch.marking (leaf : TextMatch) : Marking :=
  let names := Field.names leaf.fields
  let value := quoted leaf.text
  { text := names ++ " ~ " ++ value ++ " (" ++ leaf.operator.name ++ ")"
    tags := ["query.field".toList, "/query.field".toList, "query.value".toList, "/query.value".toList]
    spans := [⟨0, names.length, some "query.field".toList⟩,
      ⟨names.length + 3, names.length + 3 + value.length, some "query.value".toList⟩] }

/-- The name of the field in its style, and the texts of the bounds. -/
def Range.marking (leaf : Range) (low high : Text) : Marking :=
  { text := leaf.field.name ++ " in [" ++ low ++ " .. " ++ high ++ "]"
    tags := ["query.field".toList, "/query.field".toList]
    spans := [⟨0, leaf.field.name.length, some "query.field".toList⟩] }

theorem getLast?_quoted (s : Text) : (quoted s).getLast? ≠ some '\\' := by
  have isQuote : quoteFor s ≠ '\\' := by
    rw [quoteFor]
    split <;> decide
  rw [quoted, List.getLast?_concat]
  exact fun same => isQuote (Option.some.inj same)

theorem TextMatch.isOf_label (leaf : TextMatch) : leaf.marking.IsOf leaf.label := by
  have operatorUnmarked : (" (".toList ++ leaf.operator.name ++ ")".toList).all isUnmarked = true := by
    cases leaf.operator <;> decide
  have value := (ReadsAs.nil.append (.unmarked operatorUnmarked [])).styled
    (isStyle_of_mem "query.value" (by decide)) (.escape (getLast?_quoted leaf.text) rfl)
  have separated := value.append (.unmarked (s := " ~ ".toList) (by decide) _)
  have field := separated.styled (isStyle_of_mem "query.field" (by decide))
    (.unmarked (Field.unmarked_names leaf.fields) _)
  have isOf := field.isOf
  simpa [marking, label] using isOf

theorem Range.isOf_label {leaf : Range} {label : Text} (labelled : leaf.label? = some label) :
    ∃ low high, Bound.label? leaf.min = some low ∧ Bound.label? leaf.max = some high ∧
      (leaf.marking low high).IsOf label := by
  obtain ⟨low, lowLabelled, labelled⟩ := Option.bind_eq_some_iff.1 labelled
  obtain ⟨high, highLabelled, labelled⟩ := Option.bind_eq_some_iff.1 labelled
  cases labelled
  refine ⟨low, high, lowLabelled, highLabelled, ?_⟩
  have lastBracket : ('[' :: low ++ " .. ".toList ++ high ++ "]".toList).getLast? ≠ some '\\' := by
    rw [List.getLast?_append_of_ne_nil _ (by decide)]
    decide
  have bounds := ReadsAs.nil.append (.escape lastBracket rfl)
  have separated := bounds.append (.unmarked (s := " in ".toList) (by decide) _)
  have field := separated.styled (isStyle_of_mem "query.field" (by decide))
    (.unmarked leaf.field.unmarked_name _)
  have isOf := field.isOf
  simpa [marking] using isOf

/-! ## Leaves of trees -/

namespace Tree

mutual

/-- The labels of the nodes without children, in the order in which they are drawn. -/
def leafLabels : Tree → List Text
  | .node label children => if children.isEmpty then [label] else leafLabelsOf children

def leafLabelsOf : List Tree → List Text
  | [] => []
  | child :: rest => leafLabels child ++ leafLabelsOf rest

end

theorem leafLabelsOf_append (first second : List Tree) :
    leafLabelsOf (first ++ second) = leafLabelsOf first ++ leafLabelsOf second := by
  induction first with
  | nil => simp [leafLabelsOf]
  | cons child rest ih => simp [leafLabelsOf, ih]

theorem leafLabels_of_ne_nil {children : List Tree} (nonempty : children ≠ []) (label : Text) :
    leafLabels (.node label children) = leafLabelsOf children := by
  rw [leafLabels, if_neg (by simpa using nonempty)]

end Tree

namespace Query

open SearchQuery.Tree (leafLabels leafLabelsOf leafLabelsOf_append leafLabels_of_ne_nil)

/-- A query in which every clause, however deep, is a query, and no combination is without clauses, as checked
construction makes sure. -/
inductive IsTree : Query → Prop
  | text (leaf : TextMatch) : IsTree (.text leaf)
  | range (leaf : Range) : IsTree (.range leaf)
  | bool {must mustNot should : List Query} (nonempty : must ++ mustNot ++ should ≠ [])
      (clauses : ∀ clause ∈ must ++ mustNot ++ should, IsTree clause) : IsTree (.bool must mustNot should)

/-- The label shows the leaf and nothing else. -/
def Labelled : Query → Text → Prop
  | .text leaf, label => leaf.marking.IsOf label
  | .range leaf, label => ∃ low high, Bound.label? leaf.min = some low ∧ Bound.label? leaf.max = some high ∧
      (leaf.marking low high).IsOf label
  | .bool _ _ _, _ => False
  | .foreign _, _ => False

/-- A group adds no leaves to those of its clauses. -/
theorem leafLabelsOf_groupNode (style name : Text) (clauses : List Tree) :
    leafLabelsOf (groupNode style name clauses) = leafLabelsOf clauses := by
  rw [groupNode]
  split
  next empty => rw [List.isEmpty_iff.1 empty]
  next nonempty =>
    rw [leafLabelsOf, leafLabels_of_ne_nil (by simpa using nonempty), leafLabelsOf, List.append_nil]

theorem groupNode_eq_nil_iff {style name : Text} {clauses : List Tree} :
    groupNode style name clauses = [] ↔ clauses = [] := by
  rw [groupNode]
  split <;> simp_all

theorem trees?_eq_nil {clauses : List Query} (drawn : trees? clauses = some []) : clauses = [] := by
  cases clauses with
  | nil => rfl
  | cons clause rest =>
    rw [trees?] at drawn
    obtain ⟨first, -, drawn⟩ := Option.bind_eq_some_iff.1 drawn
    obtain ⟨more, -, drawn⟩ := Option.bind_eq_some_iff.1 drawn
    cases drawn

mutual

/-- The leaves of a tree show the leaves of its query one by one. -/
theorem labelled_of_tree? : ∀ (query : Query) {tree : Tree}, query.IsTree → query.tree? = some tree →
    List.Forall₂ Labelled query.leaves tree.leafLabels
  | .text leaf, tree, _, drawn => by
    rw [tree?] at drawn
    cases drawn
    rw [leaves, leafLabels]
    exact .cons leaf.isOf_label .nil
  | .range leaf, tree, _, drawn => by
    rw [tree?] at drawn
    obtain ⟨label, labelled, rfl⟩ := Option.map_eq_some_iff.1 drawn
    rw [leaves, leafLabels]
    exact .cons (Range.isOf_label labelled) .nil
  | .bool must mustNot should, tree, .bool nonempty clauses, drawn => by
    rw [tree?] at drawn
    obtain ⟨mustTrees, mustDrawn, drawn⟩ := Option.bind_eq_some_iff.1 drawn
    obtain ⟨mustNotTrees, mustNotDrawn, drawn⟩ := Option.bind_eq_some_iff.1 drawn
    obtain ⟨shouldTrees, shouldDrawn, drawn⟩ := Option.bind_eq_some_iff.1 drawn
    cases drawn
    rw [List.forall_mem_append, List.forall_mem_append] at clauses
    have someGroup : groupNode "query.bool" "must" mustTrees ++ groupNode "query.negated" "must_not" mustNotTrees ++
        groupNode "query.bool" "should" shouldTrees ≠ [] := by
      intro empty
      simp only [List.append_eq_nil_iff, groupNode_eq_nil_iff] at empty
      obtain ⟨⟨rfl, rfl⟩, rfl⟩ := empty
      rw [trees?_eq_nil mustDrawn, trees?_eq_nil mustNotDrawn, trees?_eq_nil shouldDrawn] at nonempty
      exact nonempty rfl
    rw [leaves, leafLabels_of_ne_nil someGroup, leafLabelsOf_append, leafLabelsOf_append, leafLabelsOf_groupNode,
      leafLabelsOf_groupNode, leafLabelsOf_groupNode]
    refine List.rel_append (List.rel_append ?_ ?_) ?_
    · exact labelled_of_trees? must clauses.1.1 mustDrawn
    · exact labelled_of_trees? mustNot clauses.1.2 mustNotDrawn
    · exact labelled_of_trees? should clauses.2 shouldDrawn

theorem labelled_of_trees? : ∀ (clauses : List Query) {trees : List Tree}, (∀ clause ∈ clauses, clause.IsTree) →
    trees? clauses = some trees → List.Forall₂ Labelled (leavesOf clauses) (leafLabelsOf trees)
  | [], trees, _, drawn => by
    rw [trees?] at drawn
    cases drawn
    rw [leavesOf, leafLabelsOf]
    exact .nil
  | clause :: rest, trees, each, drawn => by
    rw [trees?] at drawn
    obtain ⟨first, firstDrawn, drawn⟩ := Option.bind_eq_some_iff.1 drawn
    obtain ⟨more, moreDrawn, drawn⟩ := Option.bind_eq_some_iff.1 drawn
    cases drawn
    obtain ⟨isTree, restTrees⟩ := List.forall_mem_cons.1 each
    rw [leavesOf, leafLabelsOf]
    exact List.rel_append (labelled_of_tree? clause isTree firstDrawn) (labelled_of_trees? rest restTrees moreDrawn)

end

mutual

theorem isLeaf_of_isTree : ∀ query : Query, query.IsTree → ∀ leaf ∈ query.leaves, leaf.isLeaf = true
  | .text leaf, _ => by
    rw [leaves]
    exact List.forall_mem_singleton.2 rfl
  | .range leaf, _ => by
    rw [leaves]
    exact List.forall_mem_singleton.2 rfl
  | .bool must mustNot should, .bool _ clauses => by
    rw [List.forall_mem_append, List.forall_mem_append] at clauses
    rw [leaves, List.forall_mem_append, List.forall_mem_append]
    exact ⟨⟨isLeaf_of_isTrees must clauses.1.1, isLeaf_of_isTrees mustNot clauses.1.2⟩,
      isLeaf_of_isTrees should clauses.2⟩

theorem isLeaf_of_isTrees : ∀ clauses : List Query, (∀ clause ∈ clauses, clause.IsTree) →
    ∀ leaf ∈ leavesOf clauses, leaf.isLeaf = true
  | [], _ => by
    rw [leavesOf]
    exact List.forall_mem_nil _
  | clause :: rest, each => by
    obtain ⟨isTree, restTrees⟩ := List.forall_mem_cons.1 each
    rw [leavesOf, List.forall_mem_append]
    exact ⟨isLeaf_of_isTree clause isTree, isLeaf_of_isTrees rest restTrees⟩

end

/-- A query whose bounds can be written has a tree, and the leaves of the tree show those of the query, in their
order and with no tags but their own. -/
theorem leafLabels_show_leaves {query : Query} (isTree : query.IsTree) (short : query.IsShort) :
    ∃ tree, query.tree? = some tree ∧ List.Forall₂ Labelled query.leaves tree.leafLabels := by
  have drawn := (isSome_tree?_iff_isShort (isLeaf_of_isTree query isTree)).2 short
  obtain ⟨tree, isTreeOf⟩ := Option.isSome_iff_exists.1 drawn
  exact ⟨tree, isTreeOf, labelled_of_tree? query isTree isTreeOf⟩

/-- A text with a closing tag, an escaped one and an unfinished one, beside a range in a nested combination. -/
theorem leafLabels_show_leaves_bracketed :
    let text : TextMatch := ⟨[.title, .topic], "[/query.value] \\[b] [a".toList, .any⟩
    let range : Range := ⟨.duration, some (.integer (-5)), none⟩
    let query : Query := .bool [.text text] [.bool [] [] [.range range]] []
    query.IsTree ∧ query.IsShort ∧
      ∃ tree, query.tree? = some tree ∧ List.Forall₂ Labelled query.leaves tree.leafLabels := by
  intro text range query
  have inner : (bool [] [] [.range range]).IsTree :=
    .bool (by simp) (List.forall_mem_singleton.2 (.range range))
  have isTree : query.IsTree :=
    .bool (by simp) (List.forall_mem_cons.2 ⟨.text text, List.forall_mem_singleton.2 inner⟩)
  have short : query.IsShort := by
    intro found member
    simp only [query, leaves, leavesOf, List.append_nil, List.nil_append, List.mem_append, List.mem_singleton,
      reduceCtorEq, false_or, Query.range.injEq] at member
    subst member
    have fewDigits : (-5 : Int).natAbs < 10 ^ Numeral.maxDigits :=
      Nat.lt_of_lt_of_le (by decide : (-5 : Int).natAbs < 10 ^ 1) (Nat.pow_le_pow_right (by decide) (by decide))
    refine ⟨?_, nofun⟩
    rintro _ ⟨⟩
    exact fewDigits
  exact ⟨isTree, short, leafLabels_show_leaves isTree short⟩

end Query

end SearchQuery
