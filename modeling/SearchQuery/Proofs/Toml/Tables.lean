import SearchQuery.Proofs.Toml.Lines

/-!
# Documents that are read back

A document is read into a draft that grows table by table.  A table is added at the end of the table that its path leads
to, and what was read before stays as it is.  A table that holds lines has a header; a table that holds tables has none,
and is made by the header of the first one.  So no header finds its place declared or frozen by another one, and the
whole document is read back as it was written.
-/

set_option autoImplicit false

namespace SearchQuery

theorem lookup_eq_none_of_notMem {α β : Type} [BEq α] [LawfulBEq α] {key : α} {entries : List (α × β)}
    (absent : key ∉ entries.map (·.1)) : entries.lookup key = none := by
  rw [List.lookup_eq_none_iff]
  intro entry member
  rw [bne_iff_ne]
  rintro rfl
  exact absent (List.mem_map_of_mem member)

namespace Toml

open SearchQuery.Text

/-! ## Places -/

/-- Changing the table at a path changes `inner`, and `put` puts the outcome back. -/
def LeadsTo (entries : Entries) (path : Key) (inner : Entries) (put : Entries → Entries) : Prop :=
  ∀ f : Entries → Option Entries, entries.change? true f path = (f inner).map put

theorem LeadsTo.here (entries : Entries) : LeadsTo entries [] entries id := by
  intro f
  rw [Entries.change?, Option.map_id]
  rfl

theorem change?_append (f : Entries → Option Entries) (path more : Key) (entries : Entries) :
    entries.change? true f (path ++ more) = entries.change? true (Entries.change? true f more) path := by
  induction path generalizing entries with
  | nil => rfl
  | cons key path ih =>
    rw [List.cons_append, Entries.change?, Entries.change?]
    simp only [ih]

/-- A key that is missing leads to a new table at the end. -/
theorem LeadsTo.new {entries inner : Entries} {path : Key} {put : Entries → Entries} {key : Text}
    (leads : LeadsTo entries path inner put) (absent : key ∉ inner.map (·.1)) :
    LeadsTo entries (path ++ [key]) [] fun made => put (inner ++ [(key, .table made)]) := by
  intro f
  rw [change?_append, leads, Entries.change?, lookup_eq_none_of_notMem absent]
  simp only [Entries.change?, Option.map_map]
  rfl

theorem replace_last {before : Entries} {key : Text} (absent : key ∉ before.map (·.1)) (old new : Value) :
    Entries.replace key new (before ++ [(key, old)]) = before ++ [(key, new)] := by
  have kept : before.map (fun entry => if entry.1 = key then (key, new) else entry) = before := by
    refine (List.map_congr_left fun entry member => if_neg ?_).trans (List.map_id _)
    rintro rfl
    exact absent (List.mem_map_of_mem member)
  rw [Entries.replace, List.map_append, kept, List.map_singleton, if_pos rfl]

/-- The last key leads to its table. -/
theorem LeadsTo.last {entries before inner : Entries} {path : Key} {put : Entries → Entries} {key : Text}
    (absent : key ∉ before.map (·.1))
    (leads : LeadsTo entries path (before ++ [(key, .table inner)]) put) :
    LeadsTo entries (path ++ [key]) inner fun made => put (before ++ [(key, .table made)]) := by
  have found : (before ++ [(key, Value.table inner)]).lookup key = some (.table inner) := by
    rw [List.lookup_append, lookup_eq_none_of_notMem absent]
    simp
  intro f
  rw [change?_append, leads, Entries.change?, found]
  simp only [Entries.change?, Option.map_map, replace_last absent]
  rfl

/-! ## Drafts -/

/-- The keys that no later header may name. -/
def Draft.taken (draft : Draft) : List Key :=
  draft.declared ++ draft.frozen

/-- Nothing at, above or below a path is taken. -/
structure Draft.IsFree (draft : Draft) (path : Key) : Prop where
  settled : draft.pending = []
  notAbove : ∀ key ∈ draft.taken, ¬ key <+: path
  notBelow : ∀ key ∈ draft.taken, ¬ path <+: key

/-- What reading a table at a path leaves: nothing is taken but below the path. -/
structure Draft.GrowsAt (draft after : Draft) (path : Key) : Prop where
  settled : after.pending = []
  within : ∀ key ∈ after.taken, key ∈ draft.taken ∨ path <+: key

theorem Draft.IsFree.of_growsAt {draft after : Draft} {path : Key} {key other : Text}
    (free : draft.IsFree (path ++ [other])) (grows : draft.GrowsAt after (path ++ [key])) (differs : key ≠ other) :
    after.IsFree (path ++ [other]) := by
  have sameLength : (path ++ [key]).length = (path ++ [other]).length := by
    rw [List.length_append, List.length_append, List.length_singleton, List.length_singleton]
  have notSame : path ++ [key] ≠ path ++ [other] := by
    intro same
    exact differs (List.singleton_inj.1 (List.append_cancel_left same))
  refine ⟨grows.settled, fun taken member above => ?_, fun taken member below => ?_⟩
  · rcases grows.within taken member with old | new
    · exact free.notAbove taken old above
    · exact notSame ((new.trans above).eq_of_length sameLength)
  · rcases grows.within taken member with old | new
    · exact free.notBelow taken old below
    · exact notSame (List.prefix_of_prefix_length_le new below sameLength.le |>.eq_of_length sameLength)

theorem Draft.settle_eq {draft : Draft} (settled : draft.pending = []) : draft.settle = draft := by
  obtain ⟨entries, header, declared, frozen, pending⟩ := draft
  cases settled
  rfl

theorem isFrozen_eq_false {frozen : List Key} {key : Key} (free : ∀ old ∈ frozen, ¬ old <+: key) :
    isFrozen frozen key = false := by
  rw [isFrozen, List.any_eq_false]
  intro old member above
  exact free old member (List.isPrefixOf_iff_prefix.1 above)

theorem Draft.openTable_free {draft : Draft} {path : Key} {put : Entries → Entries} (free : draft.IsFree path)
    (leads : LeadsTo draft.entries path [] put) (rest : Text) :
    draft.openTable path rest =
      .ok { draft with entries := put [], header := path, declared := path :: draft.declared } := by
  have undeclared : path ∉ draft.declared := fun member =>
    free.notAbove path (List.mem_append_left _ member) List.prefix_rfl
  have unfrozen : isFrozen draft.frozen path = false :=
    isFrozen_eq_false fun old member => free.notAbove old (List.mem_append_right _ member)
  have made : draft.entries.change? true some path = some (put []) := leads some
  rw [openTable, decide_eq_false undeclared, unfrozen, made]
  rfl

/-- The table of the header holds `inner`, and nothing keeps lines from being added to it. -/
structure Draft.IsOpen (draft : Draft) (inner : Entries) (put : Entries → Entries) : Prop where
  settled : draft.pending = []
  unfrozen : ∀ old ∈ draft.frozen, ¬ old <+: draft.header
  leads : ∀ inner, LeadsTo (put inner) draft.header inner put
  here : draft.entries = put inner

/-- An entry is added at the end of the table of the header, and only its own key may get taken. -/
theorem Draft.IsOpen.addEntry {draft : Draft} {inner : Entries} {put : Entries → Entries}
    (isOpen : draft.IsOpen inner put) {key : Text} (absent : key ∉ inner.map (·.1)) (v : Value) :
    ∃ next : Draft, (∀ rest, draft.addEntry [key] v rest = .ok next) ∧ next.IsOpen (inner ++ [(key, v)]) put ∧
      next.header = draft.header ∧ ∀ old ∈ next.taken, old ∈ draft.taken ∨ draft.header <+: old := by
  have frozenBelow : ∀ old ∈ (if isCompound v then (draft.header ++ [key]) :: draft.frozen else draft.frozen),
      old ∈ draft.frozen ∨ old = draft.header ++ [key] := by
    intro old member
    split at member
    · exact (List.mem_cons.1 member).symm
    · exact .inl member
  refine ⟨{ draft with
    entries := put (inner ++ [(key, v)])
    frozen := if isCompound v then (draft.header ++ [key]) :: draft.frozen else draft.frozen },
    fun rest => ?_, ⟨isOpen.settled, fun old member above => ?_, isOpen.leads, rfl⟩, rfl, fun old member => ?_⟩
  · have added : draft.entries.change? true (Entries.add? key v) draft.header =
        some (put (inner ++ [(key, v)])) := by
      rw [isOpen.here, isOpen.leads, Entries.add?, lookup_eq_none_of_notMem absent]
      rfl
    have unfrozen : isFrozen draft.frozen draft.header = false := isFrozen_eq_false isOpen.unfrozen
    have path : draft.header ++ List.dropLast [key] = draft.header := List.append_nil _
    have last : Key.split [key] = ([], key) := rfl
    have passed : draft.passed [key] = [] := rfl
    rw [Draft.addEntry]
    simp only [passed, path, unfrozen, last, added, List.find?_nil, List.nil_append]
    rfl
  · rcases frozenBelow old member with kept | rfl
    · exact isOpen.unfrozen old kept above
    · exact absurd above.length_le (by simp)
  · rcases List.mem_append.1 member with declared | frozen
    · exact .inl (List.mem_append_left _ declared)
    · rcases frozenBelow old frozen with kept | rfl
      · exact .inl (List.mem_append_right _ kept)
      · exact .inr (List.prefix_append _ _)

/-! ## Statements -/

/-- All statements of a text are read. -/
def Reads (draft : Draft) (s : Text) (final : Draft) : Prop :=
  ∀ fuel, s.length < fuel → statements fuel draft s = .ok final

theorem Reads.nil (draft : Draft) : Reads draft [] draft := by
  intro fuel enough
  obtain ⟨fuel, rfl⟩ := Nat.exists_eq_add_one_of_ne_zero (Nat.ne_of_gt enough)
  rfl

/-- An empty line counts for nothing. -/
theorem reads_feed_iff {draft final : Draft} {s : Text} : Reads draft ('\n' :: s) final ↔ Reads draft s final := by
  have step : ∀ fuel, statements (fuel + 1) draft ('\n' :: s) = statements fuel draft s := fun _ => rfl
  constructor
  · intro reads fuel enough
    rw [← step]
    exact reads (fuel + 1) (Nat.succ_lt_succ enough)
  · intro reads fuel enough
    rw [List.length_cons] at enough
    obtain ⟨fuel, rfl⟩ : ∃ more, fuel = more + 1 := ⟨fuel - 1, by omega⟩
    rw [step]
    exact reads fuel (by omega)

/-- A line of a text is read, and then the rest of the text. -/
theorem Reads.line {draft after final : Draft} {line rest : Text}
    (starts : line.head?.any (!isGapOrNewline ·) = true)
    (read : statement draft (line ++ '\n' :: rest) = .ok (after, '\n' :: rest)) (later : Reads after rest final) :
    Reads draft (line ++ '\n' :: rest) final := by
  obtain ⟨c, line, rfl⟩ : ∃ c more, line = c :: more := by
    cases line with
    | nil => cases starts
    | cons c line => exact ⟨c, line, rfl⟩
  have noBlank : isGapOrNewline c = false := Bool.not_eq_true' _ |>.mp starts
  intro fuel enough
  rw [List.length_append, List.length_cons, List.length_cons] at enough
  obtain ⟨fuel, rfl⟩ : ∃ more, fuel = more + 1 := ⟨fuel - 1, by omega⟩
  rw [statements, List.cons_append, skipGap_cons (isGap_eq_false noBlank)]
  split
  next empty => cases empty
  next more opening =>
    obtain ⟨rfl, -⟩ := List.cons.inj opening
    cases noBlank
  next =>
    rw [← List.cons_append, read]
    exact later fuel (by omega)

/-- Reading some blocks, each behind an empty line, turns a draft into another one. -/
def Turns (blocks : List Text) (draft after : Draft) : Prop :=
  ∀ rest final, Reads after rest final → Reads draft (blocks.flatMap ('\n' :: ·) ++ rest) final

theorem Turns.append {first second : List Text} {draft between after : Draft} (turnsFirst : Turns first draft between)
    (turnsSecond : Turns second between after) : Turns (first ++ second) draft after := by
  intro rest final reads
  rw [List.flatMap_append, List.append_assoc]
  exact turnsFirst _ final (turnsSecond rest final reads)

/-! ## Tables of lines -/

theorem plainLines_cons {key : Text} {v : Value} {entries : Entries} (isBare : IsBare key) (plain : IsPlain v) :
    plainLines ((key, v) :: entries) =
      key ++ ' ' :: '=' :: ' ' :: (writeValue 0 v ++ '\n' :: plainLines entries) := by
  have spelled : plainLines ((key, v) :: entries) =
      writeKey key ++ " = " ++ writeValue 0 v ++ "\n" ++ plainLines entries := by
    cases plain <;> rfl
  rw [spelled, isBare.writeKey_eq]
  simp

/-- Entries that are written as the lines of a table. -/
structure AreLines (entries : Entries) : Prop where
  bare : ∀ entry ∈ entries, IsBare entry.1
  plain : ∀ entry ∈ entries, IsPlain entry.2
  distinct : (entries.map (·.1)).Nodup

/-- The lines of a table are read one after another into the table that the header opened. -/
theorem Draft.IsOpen.reads_plainLines {entries : Entries} (bare : ∀ entry ∈ entries, IsBare entry.1)
    (plain : ∀ entry ∈ entries, IsPlain entry.2) {draft : Draft} {inner : Entries} {put : Entries → Entries}
    (isOpen : draft.IsOpen inner put) (distinct : ((inner ++ entries).map (·.1)).Nodup) :
    ∃ after : Draft, after.IsOpen (inner ++ entries) put ∧
      (∀ old ∈ after.taken, old ∈ draft.taken ∨ draft.header <+: old) ∧
      ∀ rest final, Reads after rest final → Reads draft (plainLines entries ++ rest) final := by
  induction entries generalizing draft inner with
  | nil =>
    rw [List.append_nil]
    exact ⟨draft, isOpen, fun _ => .inl, fun _ _ reads => reads⟩
  | cons entry entries ih =>
    obtain ⟨key, v⟩ := entry
    obtain ⟨isBare, bareLater⟩ := List.forall_mem_cons.1 bare
    obtain ⟨isPlain, plainLater⟩ := List.forall_mem_cons.1 plain
    have absent : key ∉ inner.map (·.1) := by
      rw [List.map_append, List.map_cons] at distinct
      intro member
      exact (List.nodup_append.1 distinct).2.2 key member key List.mem_cons_self rfl
    obtain ⟨next, added, nextOpen, sameHeader, nextTaken⟩ := isOpen.addEntry absent v
    rw [List.append_cons] at distinct ⊢
    obtain ⟨after, afterOpen, taken, reads⟩ := ih bareLater plainLater nextOpen distinct
    refine ⟨after, afterOpen, fun old member => ?_, fun rest final later => ?_⟩
    · rcases taken old member with kept | below
      · exact nextTaken old kept
      · exact .inr (sameHeader ▸ below)
    · have read := statement_entry isBare isPlain (added ('\n' :: (plainLines entries ++ rest)))
      have starts : (key ++ ' ' :: '=' :: ' ' :: writeValue 0 v).head?.any (!isGapOrNewline ·) = true := by
        obtain ⟨c, more, rfl, first⟩ := isBare.exists_cons
        simp [isGapOrNewline_of_isBareKeyChar first]
      have spelled (rest : Text) : key ++ ' ' :: '=' :: ' ' :: (writeValue 0 v ++ '\n' :: rest) =
          key ++ ' ' :: '=' :: ' ' :: writeValue 0 v ++ '\n' :: rest := by
        simp
      rw [spelled] at read
      rw [plainLines_cons isBare isPlain, spelled, List.append_assoc]
      exact Reads.line starts read (reads rest final later)

theorem innerBlocks_plain {entries : Entries} (plain : ∀ entry ∈ entries, IsPlain entry.2) (path : Text) :
    innerBlocks path entries = [] := by
  induction entries with
  | nil => rw [innerBlocks]
  | cons entry entries ih =>
    obtain ⟨key, v⟩ := entry
    obtain ⟨isPlain, later⟩ := List.forall_mem_cons.1 plain
    have noBlock : tableBlocks (path ++ writeKey key) v = [] := by
      cases isPlain <;> simp [tableBlocks]
    rw [innerBlocks, noBlock, ih later, List.append_nil]

theorem holdsOnlyTables_lines {entries : Entries} (lines : AreLines entries) : holdsOnlyTables entries = false := by
  cases entries with
  | nil => rfl
  | cons entry entries =>
    have isBare := lines.bare entry List.mem_cons_self
    have spelled : plainLines (entry :: entries) = _ := plainLines_cons isBare (lines.plain entry List.mem_cons_self)
    obtain ⟨c, more, starts, -⟩ := isBare.exists_cons
    rw [holdsOnlyTables, spelled, starts]
    rfl

theorem tableBlocks_lines {entries : Entries} (lines : AreLines entries) (name : Text) :
    tableBlocks name (.table entries) = ['[' :: (name ++ ']' :: '\n' :: plainLines entries)] := by
  rw [tableBlocks, holdsOnlyTables_lines lines, innerBlocks_plain lines.plain]
  simp

/-- Reading the blocks of a table adds the table at its path. -/
def BlocksReadBack (v : Value) : Prop :=
  ∀ {path : Key} {put : Entries → Entries} {draft : Draft}, path ≠ [] → (∀ part ∈ path, IsBare part) →
    draft.IsFree path → LeadsTo draft.entries path [] put → (∀ inner, LeadsTo (put inner) path inner put) →
    ∃ inner after, v = .table inner ∧ after.entries = put inner ∧ draft.GrowsAt after path ∧
      Turns (tableBlocks (join "." path) v) draft after

theorem blocksReadBack_lines {entries : Entries} (lines : AreLines entries) : BlocksReadBack (.table entries) := by
  intro path put draft nonempty bare free absent leads
  let opened : Draft := { draft with entries := put [], header := path, declared := path :: draft.declared }
  have isOpen : opened.IsOpen [] put :=
    ⟨free.settled, fun old member => free.notAbove old (List.mem_append_right _ member), leads, rfl⟩
  obtain ⟨after, afterOpen, taken, reads⟩ := isOpen.reads_plainLines lines.bare lines.plain lines.distinct
  refine ⟨entries, after, rfl, afterOpen.here, ⟨afterOpen.settled, fun old member => ?_⟩, ?_⟩
  · rcases taken old member with kept | below
    · rcases List.mem_cons.1 kept with rfl | kept
      · exact .inr List.prefix_rfl
      · exact .inl kept
    · exact .inr below
  · intro rest final later
    have read : statement draft ('[' :: (join "." path ++ ']' :: '\n' :: (plainLines entries ++ rest))) =
        .ok (opened, '\n' :: (plainLines entries ++ rest)) := by
      refine statement_header nonempty bare ?_
      rw [Draft.settle_eq free.settled, Draft.openTable_free free absent]
    have spelled : '[' :: (join "." path ++ ']' :: '\n' :: (plainLines entries ++ rest)) =
        '[' :: (join "." path ++ [']']) ++ '\n' :: (plainLines entries ++ rest) := by
      simp
    rw [spelled] at read
    have reads := Reads.line rfl read (reads rest final later)
    rw [tableBlocks_lines lines, List.flatMap_singleton, List.cons_append, reads_feed_iff]
    simpa using reads

/-! ## Tables of tables -/

/-- A table that holds lines only, or such tables and nothing else. -/
inductive IsTidy : Value → Prop
  | lines {entries : Entries} (lines : AreLines entries) : IsTidy (.table entries)
  | tables {entries : Entries} (nonempty : entries ≠ []) (bare : ∀ entry ∈ entries, IsBare entry.1)
      (distinct : (entries.map (·.1)).Nodup) (tidy : ∀ entry ∈ entries, IsTidy entry.2) : IsTidy (.table entries)

theorem IsTidy.exists_table {v : Value} (tidy : IsTidy v) : ∃ entries, v = .table entries := by
  cases tidy with
  | lines => exact ⟨_, rfl⟩
  | tables => exact ⟨_, rfl⟩

theorem plainLines_tables {entries : Entries} (tidy : ∀ entry ∈ entries, IsTidy entry.2) : plainLines entries = [] := by
  induction entries with
  | nil => rfl
  | cons entry entries ih =>
    obtain ⟨key, v⟩ := entry
    obtain ⟨first, later⟩ := List.forall_mem_cons.1 tidy
    obtain ⟨inner, rfl⟩ := first.exists_table
    exact ih later

theorem tableBlocks_tables {entries : Entries} (nonempty : entries ≠ []) (tidy : ∀ entry ∈ entries, IsTidy entry.2)
    (name : Text) : tableBlocks name (.table entries) = innerBlocks (name ++ ".") entries := by
  have onlyTables : holdsOnlyTables entries = true := by
    rw [holdsOnlyTables, plainLines_tables tidy, List.isEmpty_eq_false_iff.2 nonempty]
    rfl
  rw [tableBlocks, onlyTables]
  rfl

/-- The next table of a table is read behind those that have been read. -/
theorem BlocksReadBack.next {v : Value} (readBack : BlocksReadBack v) {key : Text} (isBare : IsBare key) {path : Key}
    (bare : ∀ part ∈ path, IsBare part) {done : Entries} (absent : key ∉ done.map (·.1)) {draft : Draft}
    (free : draft.IsFree (path ++ [key])) {put : Entries → Entries} (here : LeadsTo draft.entries path done put)
    (leads : ∀ inner, LeadsTo (put inner) path inner put) :
    ∃ after : Draft, after.entries = put (done ++ [(key, v)]) ∧ draft.GrowsAt after (path ++ [key]) ∧
      Turns (tableBlocks (join "." (path ++ [key])) v) draft after := by
  have bareParts : ∀ part ∈ path ++ [key], IsBare part := by
    rw [List.forall_mem_append]
    exact ⟨bare, List.forall_mem_singleton.2 isBare⟩
  have nonempty : path ++ [key] ≠ [] := List.append_ne_nil_of_right_ne_nil _ (List.cons_ne_nil _ _)
  obtain ⟨inner, after, rfl, entriesEq, grows, turns⟩ := readBack nonempty bareParts free (here.new absent)
    (fun inner => (leads _).last absent)
  exact ⟨after, entriesEq, grows, turns⟩

/-- The table at a path holds `inner`, unless that is empty: then the table may be missing. -/
structure HoldsAt (entries : Entries) (path : Key) (inner : Entries) (put : Entries → Entries) : Prop where
  leads : LeadsTo entries path inner put
  made : inner ≠ [] → entries = put inner

/-- The tables of a table are read one after another behind those that have been read. -/
theorem turns_innerBlocks {entries done : Entries} (readBack : ∀ entry ∈ entries, BlocksReadBack entry.2)
    (bare : ∀ entry ∈ entries, IsBare entry.1) {path : Key} {pathText : Text} (bareParts : ∀ part ∈ path, IsBare part)
    (spelled : ∀ key, pathText ++ key = join "." (path ++ [key])) {draft : Draft} {put : Entries → Entries}
    (settled : draft.pending = []) (free : ∀ entry ∈ entries, draft.IsFree (path ++ [entry.1]))
    (holds : HoldsAt draft.entries path done put) (leads : ∀ inner, LeadsTo (put inner) path inner put)
    (distinct : ((done ++ entries).map (·.1)).Nodup) :
    ∃ after : Draft, HoldsAt after.entries path (done ++ entries) put ∧ draft.GrowsAt after path ∧
      Turns (innerBlocks pathText entries) draft after := by
  induction entries generalizing done draft with
  | nil =>
    rw [List.append_nil, innerBlocks]
    exact ⟨draft, holds, ⟨settled, fun _ => .inl⟩, fun _ _ reads => reads⟩
  | cons entry entries ih =>
    obtain ⟨key, v⟩ := entry
    obtain ⟨firstBack, laterBack⟩ := List.forall_mem_cons.1 readBack
    obtain ⟨isBare, laterBare⟩ := List.forall_mem_cons.1 bare
    obtain ⟨firstFree, laterFree⟩ := List.forall_mem_cons.1 free
    have absent : key ∉ done.map (·.1) := by
      rw [List.map_append, List.map_cons] at distinct
      intro member
      exact (List.nodup_append.1 distinct).2.2 key member key List.mem_cons_self rfl
    have others : ∀ entry ∈ entries, key ≠ entry.1 := by
      rw [List.map_append, List.map_cons] at distinct
      rintro entry member rfl
      exact (List.nodup_cons.1 (List.nodup_append.1 distinct).2.1).1 (List.mem_map.2 ⟨entry, member, rfl⟩)
    obtain ⟨next, nextEntries, nextGrows, nextTurns⟩ :=
      firstBack.next isBare bareParts absent firstFree holds.leads leads
    have nextHolds : HoldsAt next.entries path (done ++ [(key, v)]) put :=
      ⟨nextEntries ▸ leads _, fun _ => nextEntries⟩
    have nextFree : ∀ entry ∈ entries, next.IsFree (path ++ [entry.1]) := fun entry member =>
      (laterFree entry member).of_growsAt nextGrows (others entry member)
    rw [List.append_cons] at distinct ⊢
    obtain ⟨after, afterHolds, afterGrows, afterTurns⟩ :=
      ih laterBack laterBare nextGrows.settled nextFree nextHolds distinct
    refine ⟨after, afterHolds, ⟨afterGrows.settled, fun old member => ?_⟩, ?_⟩
    · rcases afterGrows.within old member with kept | below
      · exact (nextGrows.within old kept).imp_right (List.prefix_append _ _).trans
      · exact .inr below
    · rw [innerBlocks, isBare.writeKey_eq, spelled]
      exact nextTurns.append afterTurns

theorem Draft.IsFree.below {draft : Draft} {path : Key} (free : draft.IsFree path) (key : Text) :
    draft.IsFree (path ++ [key]) := by
  refine ⟨free.settled, fun old member above => ?_, fun old member below => ?_⟩
  · rcases List.prefix_concat_iff.1 above with rfl | above
    · exact free.notBelow _ member (List.prefix_append _ _)
    · exact free.notAbove old member above
  · exact free.notBelow old member ((List.prefix_append _ _).trans below)

theorem join_concat {path : Key} (nonempty : path ≠ []) (key : Text) :
    join "." path ++ "." ++ key = join "." (path ++ [key]) := by
  induction path with
  | nil => exact absurd rfl nonempty
  | cons part parts ih =>
    cases parts with
    | nil => simp [join, List.intercalate]
    | cons next parts =>
      have later := ih (List.cons_ne_nil _ _)
      rw [join, join] at later ⊢
      rw [List.cons_append, List.cons_append, List.intercalate_cons_cons, List.intercalate_cons_cons,
        ← List.cons_append, ← later]
      simp

/-- A tidy table is read back, by the lines or the tables that it holds. -/
theorem IsTidy.blocksReadBack {v : Value} (tidy : IsTidy v) : BlocksReadBack v := by
  induction tidy with
  | lines lines => exact blocksReadBack_lines lines
  | @tables entries nonempty bare distinct tidy readBack =>
    intro path put draft pathNonempty bareParts free absent leads
    have missing : HoldsAt draft.entries path [] put := ⟨absent, fun some => absurd rfl some⟩
    obtain ⟨after, holds, grows, turns⟩ := turns_innerBlocks readBack bare bareParts (join_concat pathNonempty)
      free.settled (fun entry _ => free.below entry.1) missing leads distinct
    refine ⟨entries, after, rfl, holds.made nonempty, grows, ?_⟩
    rw [tableBlocks_tables nonempty tidy]
    exact turns

/-! ## Documents -/

theorem unixLines_eq_self {s : Text} (noReturn : '\r' ∉ s) : unixLines s = s := by
  induction s using unixLines.induct with
  | case1 rest ih => exact absurd List.mem_cons_self noReturn
  | case2 c rest _ ih =>
    rw [unixLines]
    · rw [ih (List.not_mem_of_not_mem_cons noReturn)]
    · assumption
  | case3 => rfl

theorem noReturn_writeChar (c : Char) : '\r' ∉ writeChar c := by
  have hexes : ∀ n < 128, '\r' ∉ hex 4 n := by decide +kernel
  rw [writeChar]
  split_ifs with quote backslash feed carriage backspace page control
  · simp
  · simp
  · simp
  · simp
  · simp
  · simp
  · have small : c.toNat < 128 := by
      simp only [isControl, Bool.or_eq_true, Bool.and_eq_true, decide_eq_true_eq] at control
      omega
    simp [hexes _ small]
  · exact fun member => carriage (List.mem_singleton.1 member).symm

theorem noReturn_writeText (s : Text) : '\r' ∉ writeText s := by
  have escaped : '\r' ∉ s.flatMap writeChar := by
    rw [List.mem_flatMap]
    rintro ⟨c, -, member⟩
    exact noReturn_writeChar c member
  simp [writeText, escaped]

theorem IsBare.noReturn {key : Text} (isBare : IsBare key) : '\r' ∉ key := by
  intro member
  cases List.all_eq_true.1 isBare.bare _ member

theorem noReturn_writeItems (texts : List Text) : '\r' ∉ writeItems 1 (texts.map .text) := by
  induction texts with
  | nil => simp [writeItems]
  | cons text texts ih => simp [writeItems, writeValue, listIndent, noReturn_writeText, ih]

theorem IsPlain.noReturn {v : Value} (plain : IsPlain v) : '\r' ∉ writeValue 0 v := by
  cases plain with
  | bool b => cases b <;> simp [writeValue]
  | texts texts =>
    rw [writeValue]
    cases texts with
    | nil => simp
    | cons text texts =>
      have items := noReturn_writeItems (text :: texts)
      simp only [List.map_cons, Nat.zero_add, List.isEmpty_cons, Bool.false_eq_true, if_false] at items ⊢
      simp [items, listIndent]

theorem AreLines.noReturn {entries : Entries} (lines : AreLines entries) : '\r' ∉ plainLines entries := by
  obtain ⟨bare, plain, -⟩ := lines
  induction entries with
  | nil => simp [plainLines]
  | cons entry entries ih =>
    obtain ⟨isBare, bareLater⟩ := List.forall_mem_cons.1 bare
    obtain ⟨isPlain, plainLater⟩ := List.forall_mem_cons.1 plain
    have spelled : plainLines (entry :: entries) = _ := plainLines_cons isBare isPlain
    rw [spelled]
    simp [isBare.noReturn, isPlain.noReturn, ih bareLater plainLater]

/-- No block holds a carriage return, since those of texts are escaped. -/
theorem noReturn_innerBlocks {entries : Entries} (bare : ∀ entry ∈ entries, IsBare entry.1)
    (each : ∀ entry ∈ entries, ∀ name, '\r' ∉ name → ∀ block ∈ tableBlocks name entry.2, '\r' ∉ block)
    {path : Text} (noReturn : '\r' ∉ path) : ∀ block ∈ innerBlocks path entries, '\r' ∉ block := by
  induction entries with
  | nil =>
    rw [innerBlocks]
    exact List.forall_mem_nil _
  | cons entry entries ih =>
    obtain ⟨isBare, bareLater⟩ := List.forall_mem_cons.1 bare
    obtain ⟨first, later⟩ := List.forall_mem_cons.1 each
    have name : '\r' ∉ path ++ writeKey entry.1 := by
      rw [isBare.writeKey_eq]
      simp [noReturn, isBare.noReturn]
    rw [innerBlocks, List.forall_mem_append]
    exact ⟨first _ name, ih bareLater later⟩

theorem IsTidy.noReturn {v : Value} (tidy : IsTidy v) :
    ∀ name, '\r' ∉ name → ∀ block ∈ tableBlocks name v, '\r' ∉ block := by
  induction tidy with
  | lines lines =>
    intro name noReturn
    rw [tableBlocks_lines lines, List.forall_mem_singleton]
    simp [noReturn, lines.noReturn]
  | tables nonempty bare distinct tidy each =>
    intro name noReturn
    rw [tableBlocks_tables nonempty tidy]
    exact noReturn_innerBlocks bare each (by simp [noReturn])

/-- Blocks with an empty line in front of each are the joined blocks behind one more empty line. -/
theorem flatMap_feed (block : Text) (blocks : List Text) :
    (block :: blocks).flatMap ('\n' :: ·) = '\n' :: join "\n" (block :: blocks) := by
  induction blocks generalizing block with
  | nil => simp [join]
  | cons next blocks ih =>
    rw [List.flatMap_cons, ih, join, join, List.intercalate_cons_cons]
    simp

theorem reads_join_iff {draft final : Draft} {blocks : List Text} :
    Reads draft (join "\n" blocks) final ↔ Reads draft (blocks.flatMap ('\n' :: ·)) final := by
  cases blocks with
  | nil => rfl
  | cons block blocks => rw [flatMap_feed, reads_feed_iff]

theorem noReturn_join {blocks : List Text} (each : ∀ block ∈ blocks, '\r' ∉ block) : '\r' ∉ join "\n" blocks := by
  cases blocks with
  | nil => simp [join]
  | cons block blocks =>
    intro member
    have within : '\r' ∈ (block :: blocks).flatMap ('\n' :: ·) := by
      rw [flatMap_feed]
      exact List.mem_cons_of_mem _ member
    obtain ⟨found, isBlock, inFound⟩ := List.mem_flatMap.1 within
    exact each found isBlock (List.mem_of_ne_of_mem (by decide) inFound)

/-- A document of tidy tables is read back as it was written. -/
theorem read_write {entries : Entries} (bare : ∀ entry ∈ entries, IsBare entry.1)
    (distinct : (entries.map (·.1)).Nodup) (tidy : ∀ entry ∈ entries, IsTidy entry.2) :
    read (write entries) = .ok entries := by
  have written : write entries = join "\n" (innerBlocks [] entries) := by
    rw [write, plainLines_tables tidy]
    rfl
  have noReturn : '\r' ∉ join "\n" (innerBlocks [] entries) :=
    noReturn_join (noReturn_innerBlocks bare (fun entry member => (tidy entry member).noReturn) List.not_mem_nil)
  have spelled (key : Text) : [] ++ key = join "." ([] ++ [key]) := by simp [join]
  have free : ∀ entry ∈ entries, ({} : Draft).IsFree ([] ++ [entry.1]) := fun entry _ =>
    ⟨rfl, List.forall_mem_nil _, List.forall_mem_nil _⟩
  obtain ⟨after, holds, -, turns⟩ := turns_innerBlocks (fun entry member => (tidy entry member).blocksReadBack) bare
    (List.forall_mem_nil _) spelled rfl free ⟨.here [], fun _ => rfl⟩ .here distinct
  have final : after.entries = entries := Option.some.inj (holds.leads some)
  have reads : Reads {} (join "\n" (innerBlocks [] entries)) after := by
    rw [reads_join_iff, ← List.append_nil (List.flatMap _ _)]
    exact turns [] after (.nil after)
  rw [written, read, unixLines_eq_self noReturn]
  simp only [reads _ (Nat.lt_succ_self _), final]

end Toml

end SearchQuery
