import SearchQuery.Proofs.Calendar.Iso
import SearchQuery.Proofs.Query.Labels

/-!
# Reading queries back from their documents

The document of a query determines the query.  `Query.ofValue?` reads it back, looking up every entry by its key: a
group that is left out is empty, and a bound that is left out leaves its side open.  It recovers the query from every
document that is the same up to the order in which tables list their entries, so two queries with the same document
are one query.  A query has no document exactly if some clause of it, at whatever depth, is foreign, and the one that
is reported is the first of these.
-/

set_option autoImplicit false

namespace SearchQuery

/-! ## The same document -/

namespace Value

/-- Two documents that differ at most in the order of the entries of their tables.  Tables are the same if under every
key both have the same value or both have none. -/
inductive Same : Value → Value → Prop
  | refl (value : Value) : Same value value
  | list {items others : List Value} (each : List.Forall₂ Same items others) : Same (.list items) (.list others)
  | table {entries others : List (Text × Value)}
      (each : ∀ key, Option.Rel Same (entries.lookup key) (others.lookup key)) : Same (.table entries) (.table others)

def entry? (key : Text) : Value → Option Value
  | .table entries => entries.lookup key
  | _ => none

def text? : Value → Option Text
  | .text s => some s
  | _ => none

def list? : Value → Option (List Value)
  | .list items => some items
  | _ => none

theorem Same.entry? {value copy : Value} (same : value.Same copy) (key : Text) :
    Option.Rel Same (value.entry? key) (copy.entry? key) := by
  cases same with
  | refl =>
    cases value.entry? key with
    | none => exact .none
    | some found => exact .some (.refl found)
  | list _ => exact .none
  | table each => exact each key

theorem Same.exists_entry? {value copy found : Value} (same : value.Same copy) (key : Text)
    (isFound : value.entry? key = some found) : ∃ other, copy.entry? key = some other ∧ found.Same other := by
  have related := same.entry? key
  rw [isFound] at related
  generalize copy.entry? key = entry at related
  cases related with
  | some sameFound => exact ⟨_, rfl, sameFound⟩

theorem Same.entry?_eq_none {value copy : Value} {key : Text} (same : value.Same copy)
    (isMissing : value.entry? key = none) : copy.entry? key = none := by
  have related := same.entry? key
  rw [isMissing] at related
  generalize copy.entry? key = entry at related
  cases related with
  | none => rfl

theorem Same.exists_table {entries : List (Text × Value)} {copy : Value} (same : (Value.table entries).Same copy) :
    ∃ others, copy = .table others := by
  cases same with
  | refl => exact ⟨entries, rfl⟩
  | table _ => exact ⟨_, rfl⟩

theorem Same.exists_list {items : List Value} {copy : Value} (same : (Value.list items).Same copy) :
    ∃ others, copy = .list others ∧ List.Forall₂ Same items others := by
  cases same with
  | refl => exact ⟨items, rfl, List.forall₂_same.2 fun item _ => .refl item⟩
  | list each => exact ⟨_, rfl, each⟩

end Value

/-! ## Leaves -/

theorem Operator.ofName?_name (operator : Operator) : ofName? operator.name = some operator := by
  cases operator <;> decide

namespace Field

def ofValue? (value : Value) : Option Field :=
  value.text?.bind ofName?

theorem ofValue?_name (field : Field) : ofValue? (.text field.name) = some field := by
  cases field <;> decide

theorem mapM_ofValue?_of_same {fields : List Field} {copies : List Value}
    (same : List.Forall₂ Value.Same (fields.map fun field => .text field.name) copies) :
    copies.mapM ofValue? = some fields := by
  induction fields generalizing copies with
  | nil =>
    cases same
    rfl
  | cons field fields ih =>
    cases same with
    | cons first later =>
      cases first
      simp [ofValue?_name, ih later]

end Field

namespace TextMatch

def ofBody? (body : Value) : Option TextMatch := do
  let fields ← (← (← body.entry? "fields").list?).mapM Field.ofValue?
  let text ← (← body.entry? "text").text?
  let operator ← Operator.ofName? (← (← body.entry? "operator").text?)
  return ⟨fields, text, operator⟩

theorem exists_body {leaf : TextMatch} {copy : Value} (same : leaf.toValue.Same copy) :
    ∃ body, copy.entry? "text" = some body ∧ ofBody? body = some leaf := by
  obtain ⟨body, bodyFound, sameBody⟩ := same.exists_entry? "text" rfl
  obtain ⟨names, namesFound, sameNames⟩ := sameBody.exists_entry? "fields" rfl
  obtain ⟨text, textFound, sameText⟩ := sameBody.exists_entry? "text" rfl
  obtain ⟨operator, operatorFound, sameOperator⟩ := sameBody.exists_entry? "operator" rfl
  obtain ⟨fields, rfl, sameFields⟩ := sameNames.exists_list
  cases sameText
  cases sameOperator
  refine ⟨body, bodyFound, ?_⟩
  simp only [ofBody?, namesFound, textFound, operatorFound, Value.list?, Value.text?,
    Field.mapM_ofValue?_of_same sameFields, Operator.ofName?_name, Option.bind_eq_bind, Option.bind_some,
    Option.pure_def]

end TextMatch

namespace Bound

def ofValue? : Value → Option Bound
  | .integer n => some (.integer n)
  | .real x => some (.real x)
  | .text s => (Date.readIso? s).map .date
  | _ => none

theorem ofValue?_of_same {bound : Bound} {copy : Value} (same : bound.toValue.Same copy) :
    ofValue? copy = some bound := by
  cases bound with
  | integer n =>
    cases same
    rfl
  | real x =>
    cases same
    rfl
  | date d =>
    cases same
    change (Date.readIso? d.writeIso).map Bound.date = some (.date d)
    rw [Date.readIso?_eq_some_iff.2 (.inl d.isIso_writeIso), Option.map_some]

end Bound

namespace Range

/-- A bound that is left out leaves its side open. -/
def sideOf? : Option Value → Option (Option Bound)
  | none => some none
  | some value => (Bound.ofValue? value).map some

theorem sideOf?_of_same {side : Option Bound} {entry : Option Value}
    (same : Option.Rel Value.Same (side.map Bound.toValue) entry) : sideOf? entry = some side := by
  cases side with
  | none =>
    cases same
    rfl
  | some bound =>
    cases same with
    | some sameBound => rw [sideOf?, Bound.ofValue?_of_same sameBound, Option.map_some]

def ofBody? (body : Value) : Option Range := do
  let field ← Field.ofValue? (← body.entry? "field")
  let min ← sideOf? (body.entry? "min")
  let max ← sideOf? (body.entry? "max")
  return ⟨field, min, max⟩

theorem exists_body {leaf : Range} {copy : Value} (same : leaf.toValue.Same copy) :
    ∃ body, copy.entry? "range" = some body ∧ ofBody? body = some leaf := by
  obtain ⟨field, min, max⟩ := leaf
  obtain ⟨body, bodyFound, sameBody⟩ := same.exists_entry? "range" rfl
  obtain ⟨name, nameFound, sameName⟩ := sameBody.exists_entry? "field" rfl
  cases sameName
  have minRead : sideOf? (body.entry? "min") = some min := by
    apply sideOf?_of_same
    cases min <;> cases max <;> exact sameBody.entry? "min"
  have maxRead : sideOf? (body.entry? "max") = some max := by
    apply sideOf?_of_same
    cases min <;> cases max <;> exact sameBody.entry? "max"
  refine ⟨body, bodyFound, ?_⟩
  simp only [ofBody?, nameFound, Field.ofValue?_name, minRead, maxRead, Option.bind_eq_bind, Option.bind_some,
    Option.pure_def]

end Range

/-! ## Combinations -/

namespace Query

mutual

/-- The query of a document.  The kind of a query is the key under which its parts stand. -/
def ofValue? : Value → Option Query
  | .table entries =>
    match entries.lookup "text".toList, entries.lookup "range".toList with
    | some body, _ => (TextMatch.ofBody? body).map .text
    | none, some body => (Range.ofBody? body).map .range
    | none, none => combination? entries
  | _ => none

def combination? : List (Text × Value) → Option Query
  | [] => none
  | (key, body) :: rest => if key = "bool".toList then ofBody? body else combination? rest

def ofBody? : Value → Option Query
  | .table entries => do
    let must ← group? "must" entries
    let mustNot ← group? "must_not" entries
    let should ← group? "should" entries
    return .bool must mustNot should
  | _ => none

/-- The clauses of a group; a group that is left out is empty. -/
def group? (name : Text) : List (Text × Value) → Option (List Query)
  | [] => some []
  | (key, clauses) :: rest => if key = name then ofList? clauses else group? name rest

def ofList? : Value → Option (List Query)
  | .list items => ofItems? items
  | _ => none

def ofItems? : List Value → Option (List Query)
  | [] => some []
  | item :: rest => do
    let first ← ofValue? item
    let more ← ofItems? rest
    return first :: more

end

theorem ofValue?_of_text {document body : Value} (found : document.entry? "text" = some body) :
    ofValue? document = (TextMatch.ofBody? body).map .text := by
  cases document with
  | table entries =>
    rw [Value.entry?] at found
    rw [ofValue?, found]
  | _ => cases found

theorem ofValue?_of_range {document body : Value} (noText : document.entry? "text" = none)
    (found : document.entry? "range" = some body) : ofValue? document = (Range.ofBody? body).map .range := by
  cases document with
  | table entries =>
    rw [Value.entry?] at noText found
    rw [ofValue?, noText, found]
  | _ => cases found

theorem combination?_eq (entries : List (Text × Value)) :
    combination? entries = (entries.lookup "bool".toList).bind ofBody? := by
  induction entries with
  | nil => rw [combination?]; rfl
  | cons entry rest ih =>
    obtain ⟨key, body⟩ := entry
    rw [combination?, List.lookup_cons]
    by_cases isKey : key = "bool".toList
    · rw [if_pos isKey, isKey, beq_self_eq_true, Option.bind_some]
    · rw [if_neg isKey, beq_false_of_ne (Ne.symm isKey), ih]

theorem ofValue?_of_bool {document body : Value} (noText : document.entry? "text" = none)
    (noRange : document.entry? "range" = none) (found : document.entry? "bool" = some body) :
    ofValue? document = ofBody? body := by
  cases document with
  | table entries =>
    rw [Value.entry?] at noText noRange found
    rw [ofValue?, noText, noRange]
    change combination? entries = ofBody? body
    rw [combination?_eq, found, Option.bind_some]
  | _ => cases found

theorem group?_eq (name : Text) (entries : List (Text × Value)) :
    group? name entries = match entries.lookup name with
      | none => some []
      | some clauses => ofList? clauses := by
  induction entries with
  | nil => rw [group?]; rfl
  | cons entry rest ih =>
    obtain ⟨key, clauses⟩ := entry
    rw [group?, List.lookup_cons]
    by_cases isKey : key = name
    · rw [if_pos isKey, isKey, beq_self_eq_true]
    · rw [if_neg isKey, beq_false_of_ne (Ne.symm isKey), ih]

/-- What one group of a combination gives, when the clauses of the group are read back. -/
theorem group?_of_same {name : Text} {clauses : List Query} {values : List Value} {others : List (Text × Value)}
    (recovered : ∀ {copies}, List.Forall₂ Value.Same values copies → ofItems? copies = some clauses)
    (same : Option.Rel Value.Same ((groupEntry name values).lookup name) (others.lookup name)) :
    group? name others = some clauses := by
  rw [group?_eq]
  cases values with
  | nil =>
    -- The group has no entry, on either side; its clauses are read back from no documents at all.
    have empty := recovered .nil
    rw [ofItems?] at empty
    generalize others.lookup name = entry at same
    cases same
    exact empty
  | cons value values =>
    rw [groupEntry, if_neg (by simp), List.lookup_cons_self] at same
    generalize others.lookup name = entry at same
    cases same with
    | some sameList =>
      obtain ⟨copies, rfl, each⟩ := sameList.exists_list
      change ofList? (.list copies) = _
      rw [ofList?, recovered each]

theorem lookup_groups (must mustNot should : List Value) :
    let entries := groupEntry "must" must ++ groupEntry "must_not" mustNot ++ groupEntry "should" should
    entries.lookup "must".toList = (groupEntry "must" must).lookup "must".toList ∧
      entries.lookup "must_not".toList = (groupEntry "must_not" mustNot).lookup "must_not".toList ∧
      entries.lookup "should".toList = (groupEntry "should" should).lookup "should".toList := by
  cases must <;> cases mustNot <;> cases should <;> exact ⟨rfl, rfl, rfl⟩

mutual

/-- A query is read back from every document that is the same as its own. -/
theorem ofValue?_of_same : ∀ (query : Query) {document copy : Value}, query.toValue = .ok document →
    document.Same copy → ofValue? copy = some query
  | .text leaf, document, copy, written, same => by
    rw [toValue] at written
    cases written
    obtain ⟨body, found, recovered⟩ := TextMatch.exists_body same
    rw [ofValue?_of_text found, recovered, Option.map_some]
  | .range leaf, document, copy, written, same => by
    rw [toValue] at written
    cases written
    obtain ⟨body, found, recovered⟩ := Range.exists_body same
    rw [ofValue?_of_range (same.entry?_eq_none rfl) found, recovered, Option.map_some]
  | .foreign value, document, copy, written, same => by
    rw [toValue] at written
    cases written
  | .bool must mustNot should, document, copy, written, same => by
    rw [toValue] at written
    obtain ⟨mustValues, mustWritten, written⟩ := Outcome.bind_eq_ok written
    obtain ⟨mustNotValues, mustNotWritten, written⟩ := Outcome.bind_eq_ok written
    obtain ⟨shouldValues, shouldWritten, written⟩ := Outcome.bind_eq_ok written
    cases written
    obtain ⟨body, found, sameBody⟩ := same.exists_entry? "bool" rfl
    rw [ofValue?_of_bool (same.entry?_eq_none rfl) (same.entry?_eq_none rfl) found]
    obtain ⟨others, rfl⟩ := sameBody.exists_table
    -- The three keys differ, so a group that is left out cannot be mistaken for another one.
    obtain ⟨mustEntry, mustNotEntry, shouldEntry⟩ := lookup_groups mustValues mustNotValues shouldValues
    have mustRead : group? "must" others = some must := by
      apply group?_of_same (ofItems?_of_same must mustWritten)
      rw [← mustEntry]
      exact sameBody.entry? "must"
    have mustNotRead : group? "must_not" others = some mustNot := by
      apply group?_of_same (ofItems?_of_same mustNot mustNotWritten)
      rw [← mustNotEntry]
      exact sameBody.entry? "must_not"
    have shouldRead : group? "should" others = some should := by
      apply group?_of_same (ofItems?_of_same should shouldWritten)
      rw [← shouldEntry]
      exact sameBody.entry? "should"
    rw [ofBody?, mustRead, mustNotRead, shouldRead]
    rfl

theorem ofItems?_of_same : ∀ (clauses : List Query) {documents copies : List Value},
    toValues clauses = .ok documents → List.Forall₂ Value.Same documents copies → ofItems? copies = some clauses
  | [], documents, copies, written, same => by
    rw [toValues] at written
    cases written
    cases same
    rw [ofItems?]
  | clause :: rest, documents, copies, written, same => by
    rw [toValues] at written
    obtain ⟨first, firstWritten, written⟩ := Outcome.bind_eq_ok written
    obtain ⟨more, moreWritten, written⟩ := Outcome.bind_eq_ok written
    cases written
    cases same with
    | cons sameFirst sameMore =>
      rw [ofItems?, ofValue?_of_same clause firstWritten sameFirst, ofItems?_of_same rest moreWritten sameMore]
      rfl

end

/-! ## Foreign clauses -/

/-- The query itself, or a clause that stands in it at some depth. -/
inductive HasClause : Query → Query → Prop
  | self (query : Query) : HasClause query query
  | deeper {must mustNot should : List Query} {clause found : Query} (member : clause ∈ must ++ mustNot ++ should)
      (inside : HasClause clause found) : HasClause (.bool must mustNot should) found

def foreign? : Query → Option Value
  | .foreign value => some value
  | _ => none

mutual

/-- What cannot be handed on is the first foreign leaf, in the order in which the document would list them. -/
theorem findSome?_leaves : ∀ query : Query, query.leaves.findSome? foreign? =
    match query.toValue with
    | .error value => some value
    | .ok _ => none
  | .text leaf => by rw [leaves, toValue]; rfl
  | .range leaf => by rw [leaves, toValue]; rfl
  | .foreign value => by rw [leaves, toValue]; rfl
  | .bool must mustNot should => by
    rw [leaves, List.findSome?_append, List.findSome?_append, findSome?_leavesOf must, findSome?_leavesOf mustNot,
      findSome?_leavesOf should, toValue]
    cases toValues must <;> cases toValues mustNot <;> cases toValues should <;> rfl

theorem findSome?_leavesOf : ∀ clauses : List Query, (leavesOf clauses).findSome? foreign? =
    match toValues clauses with
    | .error value => some value
    | .ok _ => none
  | [] => by rw [leavesOf, toValues]; rfl
  | clause :: rest => by
    rw [leavesOf, List.findSome?_append, findSome?_leaves clause, findSome?_leavesOf rest, toValues]
    cases toValue clause <;> cases toValues rest <;> rfl

end

mutual

theorem foreign_mem_leaves_iff : ∀ (query : Query) {value : Value},
    .foreign value ∈ query.leaves ↔ query.HasClause (.foreign value)
  | .text leaf, value => by
    rw [leaves]
    constructor
    · intro member
      cases List.mem_singleton.1 member
    · intro inside
      cases inside
  | .range leaf, value => by
    rw [leaves]
    constructor
    · intro member
      cases List.mem_singleton.1 member
    · intro inside
      cases inside
  | .foreign other, value => by
    rw [leaves]
    constructor
    · intro member
      cases List.mem_singleton.1 member
      exact .self _
    · intro inside
      cases inside
      exact List.mem_singleton_self _
  | .bool must mustNot should, value => by
    rw [leaves, List.mem_append, List.mem_append, foreign_mem_leavesOf_iff must, foreign_mem_leavesOf_iff mustNot,
      foreign_mem_leavesOf_iff should]
    constructor
    · rintro ((⟨clause, member, inside⟩ | ⟨clause, member, inside⟩) | ⟨clause, member, inside⟩)
      · exact .deeper (by simp [member]) inside
      · exact .deeper (by simp [member]) inside
      · exact .deeper (by simp [member]) inside
    · intro inside
      cases inside with
      | @deeper _ _ _ clause _ member inside =>
        rcases List.mem_append.1 member with member | member
        · rcases List.mem_append.1 member with member | member
          · exact .inl (.inl ⟨clause, member, inside⟩)
          · exact .inl (.inr ⟨clause, member, inside⟩)
        · exact .inr ⟨clause, member, inside⟩

theorem foreign_mem_leavesOf_iff : ∀ (clauses : List Query) {value : Value},
    .foreign value ∈ leavesOf clauses ↔ ∃ clause ∈ clauses, clause.HasClause (.foreign value)
  | [], value => by simp [leavesOf]
  | clause :: rest, value => by
    rw [leavesOf, List.mem_append, foreign_mem_leaves_iff clause, foreign_mem_leavesOf_iff rest,
      List.exists_mem_cons_iff]

end

end Query

namespace Value

mutual

/-- All integers in a value. -/
def integers : Value → List Int
  | .integer n => [n]
  | .list items => integersOf items
  | .table entries => entryIntegers entries
  | _ => []

def integersOf : List Value → List Int
  | [] => []
  | item :: rest => integers item ++ integersOf rest

def entryIntegers : List (Text × Value) → List Int
  | [] => []
  | (_, value) :: rest => integers value ++ entryIntegers rest

end

/-- No integer in the value has too many digits. -/
def IsShort (value : Value) : Prop :=
  ∀ n ∈ value.integers, n.natAbs < 10 ^ Numeral.maxDigits

mutual

theorem isSome_literal?_iff : ∀ value : Value, value.literal?.isSome = true ↔ value.IsShort
  | .null => by simp [literal?, IsShort, integers]
  | .bool b => by simp [literal?, IsShort, integers]
  | .real x => by simp [literal?, IsShort, integers]
  | .text s => by simp [literal?, IsShort, integers]
  | .moment m => by simp [literal?, IsShort, integers]
  | .integer n => by
    rw [IsShort, integers, List.forall_mem_singleton]
    exact (Bound.integer n).isSome_write?_iff
  | .list items => by rw [literal?, Option.isSome_map, isSome_literals?_iff, IsShort, integers]
  | .table entries => by rw [literal?, Option.isSome_map, isSome_entryLiterals?_iff, IsShort, integers]

theorem isSome_literals?_iff : ∀ items : List Value,
    (literals? items).isSome = true ↔ ∀ n ∈ integersOf items, n.natAbs < 10 ^ Numeral.maxDigits
  | [] => by simp [literals?, integersOf]
  | item :: rest => by
    rw [integersOf, List.forall_mem_append, ← isSome_literals?_iff rest, ← IsShort, ← isSome_literal?_iff item,
      literals?]
    cases literal? item <;> cases literals? rest <;> simp

theorem isSome_entryLiterals?_iff : ∀ entries : List (Text × Value),
    (entryLiterals? entries).isSome = true ↔ ∀ n ∈ entryIntegers entries, n.natAbs < 10 ^ Numeral.maxDigits
  | [] => by simp [entryLiterals?, entryIntegers]
  | (key, value) :: rest => by
    rw [entryIntegers, List.forall_mem_append, ← isSome_entryLiterals?_iff rest, ← IsShort, ← isSome_literal?_iff value,
      entryLiterals?]
    cases literal? value <;> cases entryLiterals? rest <;> simp

end

end Value

namespace Query

theorem toValue_eq_error_iff {query : Query} {value : Value} :
    query.toValue = .error value ↔ query.leaves.findSome? foreign? = some value := by
  rw [findSome?_leaves]
  cases query.toValue <;> simp

theorem exists_toValue_eq_error_iff (query : Query) :
    (∃ value, query.toValue = .error value) ↔ ∃ value, query.HasClause (.foreign value) := by
  simp only [toValue_eq_error_iff, ← foreign_mem_leaves_iff]
  rw [← Option.isSome_iff_exists, List.isSome_findSome?, List.any_eq_true]
  constructor
  · rintro ⟨leaf, member, isForeign⟩
    cases leaf with
    | foreign value => exact ⟨value, member⟩
    | _ => cases isForeign
  · rintro ⟨value, member⟩
    exact ⟨.foreign value, member, rfl⟩

theorem exists_foreignMessage? {value : Value} (short : value.IsShort) :
    ∃ literal, value.literal? = some literal ∧ foreignMessage? value = some ("Not a query node: " ++ literal) := by
  obtain ⟨literal, written⟩ := Option.isSome_iff_exists.1 (value.isSome_literal?_iff.2 short)
  exact ⟨literal, written, by rw [foreignMessage?, written, Option.map_some]⟩

/-- Every tree has a document, from which, or from one that is the same, it is read back, so that only equal trees have
the same document.  A query is refused exactly if some clause of it is foreign, and then for the first of these, which
the complaint spells out unless it holds an integer of too many digits. -/
theorem toValue_loses_nothing {first second : Query} (firstTree : first.IsTree) (secondTree : second.IsTree)
    (query : Query) :
    (∃ document other, first.toValue = .ok document ∧ second.toValue = .ok other ∧
      (∀ copy, document.Same copy → ofValue? copy = some first) ∧ (document.Same other ↔ first = second)) ∧
    ((∃ value, query.toValue = .error value) ↔ ∃ value, query.HasClause (.foreign value)) ∧
    (∀ value, query.toValue = .error value ↔ query.leaves.findSome? foreign? = some value) ∧
    ∀ value, query.toValue = .error value → value.IsShort →
      ∃ literal, value.literal? = some literal ∧ foreignMessage? value = some ("Not a query node: " ++ literal) := by
  obtain ⟨document, written⟩ := exists_toValue first (isLeaf_of_isTree first firstTree)
  obtain ⟨other, otherWritten⟩ := exists_toValue second (isLeaf_of_isTree second secondTree)
  refine ⟨⟨document, other, written, otherWritten, ?_, ?_⟩, query.exists_toValue_eq_error_iff, ?_, ?_⟩
  · intro copy same
    exact ofValue?_of_same first written same
  · constructor
    · intro same
      have recovered := ofValue?_of_same first written same
      rw [ofValue?_of_same second otherWritten (.refl other)] at recovered
      exact (Option.some.inj recovered).symm
    · rintro rfl
      rw [written] at otherWritten
      cases otherWritten
      exact .refl document
  · intro value
    exact toValue_eq_error_iff
  · intro value _ short
    exact exists_foreignMessage? short

/-- Two trees that differ in which side of a range is open, three levels down, and a query with two foreign clauses of
which the deeper one comes first. -/
theorem toValue_loses_nothing_nested :
    let leapDay : Bound := .date ⟨2024, 2, 29, by decide⟩
    let tree (min max : Option Bound) : Query :=
      .bool [.text ⟨[.title, .topic], "krimi".toList, .any⟩] [.bool [] [] [.range ⟨.timestamp, min, max⟩]] []
    let query : Query := .bool [] [.bool [tree leapDay none, .foreign (.integer 5)] [] []] [.foreign .null]
    (∃ document other, (tree leapDay none).toValue = .ok document ∧ (tree none leapDay).toValue = .ok other ∧
      ofValue? document = some (tree leapDay none) ∧ ¬document.Same other) ∧
    query.toValue = .error (.integer 5) ∧ foreignMessage? (.integer 5) = some "Not a query node: 5".toList := by
  intro leapDay tree query
  have isTree : ∀ min max, (tree min max).IsTree := by
    intro min max
    have inner : (bool [] [] [.range ⟨.timestamp, min, max⟩]).IsTree :=
      .bool (by simp) (List.forall_mem_singleton.2 (.range _))
    exact .bool (by simp) (List.forall_mem_cons.2 ⟨.text _, List.forall_mem_singleton.2 inner⟩)
  obtain ⟨⟨document, other, written, otherWritten, recovered, determined⟩, -, refused, -⟩ :=
    toValue_loses_nothing (isTree leapDay none) (isTree none leapDay) query
  refine ⟨⟨document, other, written, otherWritten, recovered document (.refl document), ?_⟩, ?_, by decide +kernel⟩
  · intro same
    have equal := determined.1 same
    simp [tree] at equal
  · apply (refused _).2
    rfl

end Query

end SearchQuery
