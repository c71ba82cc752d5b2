import SearchQuery.Proofs.Reading.Values

/-!
# How a separator divides a text

A text is divided at the first place behind its beginning where the separator may divide it, or else at its
beginning.  The parts on both sides make one of four readings: an exact value, both bounds, a lower bound, or an
upper bound.  What is read is always spelled by the text, with blanks around the separator; and a spelling is read
as it was meant when no text of a bound could itself be divided.
-/

set_option autoImplicit false

namespace SearchQuery

open SearchQuery.Text

theorem Binary64.less_self (x : Binary64) : x.less x = false := by
  cases x with
  | finite negative mantissa exponent => simp [less, scaledLess]
  | infinite negative => simp [less]
  | nan => rfl

theorem Bound.exceeds?_self (bound : Bound) : bound.exceeds? bound = some false := by
  cases bound with
  | integer n => simp [exceeds?]
  | real x => rw [exceeds?, x.less_self]
  | date d => simp [exceeds?, Date.less]

namespace Range

/-! ## Places -/

/-- The separator stands between two parts of a text, at a place where it may divide. -/
structure DividesInto (separator text before after : Text) : Prop where
  parted : text = before ++ separator ++ after
  allowed : dividesAfter separator before.getLast? = true

theorem mem_dividers_cons {separator rest : Text} {index place : Nat} {previous : Option Char} {c : Char} :
    place ∈ dividers separator index previous (c :: rest) ↔
      (place = index ∧ separator <+: c :: rest ∧ dividesAfter separator previous = true) ∨
        place ∈ dividers separator (index + 1) (some c) rest := by
  simp only [dividers]
  split
  next holds =>
    rw [Bool.and_eq_true, List.isPrefixOf_iff_prefix] at holds
    simp [holds]
  next fails =>
    rw [Bool.and_eq_true, List.isPrefixOf_iff_prefix] at fails
    simp [fails]

theorem mem_dividers_iff {separator : Text} (nonempty : separator ≠ []) {index place : Nat}
    {previous : Option Char} {text : Text} :
    place ∈ dividers separator index previous text ↔
      ∃ before after, text = before ++ separator ++ after ∧ place = index + before.length ∧
        dividesAfter separator (before.getLast?.or previous) = true := by
  induction text generalizing index previous with
  | nil => simp [dividers, nonempty]
  | cons c rest ih =>
    rw [mem_dividers_cons, ih]
    constructor
    · rintro (⟨rfl, ⟨after, parted⟩, allowed⟩ | ⟨before, after, rfl, rfl, allowed⟩)
      · exact ⟨[], after, parted.symm, rfl, allowed⟩
      · refine ⟨c :: before, after, rfl, ?_, ?_⟩
        · rw [List.length_cons]
          omega
        · simpa [List.getLast?_cons, Option.or_some] using allowed
    · rintro ⟨before, after, parted, rfl, allowed⟩
      cases before with
      | nil => exact .inl ⟨rfl, ⟨after, parted.symm⟩, allowed⟩
      | cons first before =>
        cases parted
        refine .inr ⟨before, after, rfl, ?_, ?_⟩
        · rw [List.length_cons]
          omega
        · simpa [List.getLast?_cons, Option.or_some] using allowed

theorem mem_dividers_start_iff {separator : Text} (nonempty : separator ≠ []) {place : Nat} {text : Text} :
    place ∈ dividers separator 0 none text ↔
      ∃ before after, DividesInto separator text before after ∧ place = before.length := by
  rw [mem_dividers_iff nonempty]
  constructor
  · rintro ⟨before, after, parted, rfl, allowed⟩
    exact ⟨before, after, ⟨parted, by simpa using allowed⟩, Nat.zero_add _⟩
  · rintro ⟨before, after, ⟨parted, allowed⟩, rfl⟩
    exact ⟨before, after, parted, (Nat.zero_add _).symm, by simpa using allowed⟩

theorem pairwise_dividers {separator : Text} (nonempty : separator ≠ []) (index : Nat) (previous : Option Char)
    (text : Text) : (dividers separator index previous text).Pairwise (· < ·) := by
  induction text generalizing index previous with
  | nil => exact .nil
  | cons c rest ih =>
    simp only [dividers]
    split
    next =>
      refine .cons ?_ (ih (index + 1) (some c))
      intro place member
      obtain ⟨before, after, -, rfl, -⟩ := (mem_dividers_iff nonempty).1 member
      omega
    next => exact ih (index + 1) (some c)

theorem divider?_eq_none_iff {separator : Text} (nonempty : separator ≠ []) {text : Text} :
    divider? separator text = none ↔ ∀ before after, ¬DividesInto separator text before after := by
  have found : divider? separator text = none ↔ dividers separator 0 none text = [] := by
    simp only [divider?, Option.orElse_eq_orElse, Option.orElse_eq_or, Option.or_eq_none_iff,
      List.head?_eq_none_iff]
    constructor
    · exact fun both => both.2
    · intro empty
      rw [empty]
      exact ⟨rfl, rfl⟩
  rw [found, List.eq_nil_iff_forall_not_mem]
  constructor
  · intro absent before after divides
    exact absent before.length ((mem_dividers_start_iff nonempty).2 ⟨before, after, divides, rfl⟩)
  · intro undivided place member
    obtain ⟨before, after, divides, -⟩ := (mem_dividers_start_iff nonempty).1 member
    exact undivided before after divides

/-- The place where a text is divided comes before all others but its beginning, which comes last. -/
def ComesFirst (separator text before : Text) : Prop :=
  ∀ other rest, DividesInto separator text other rest →
    other = [] ∨ before ≠ [] ∧ before.length ≤ other.length

theorem exists_of_divider?_eq_some {separator : Text} (nonempty : separator ≠ []) {text : Text} {index : Nat}
    (found : divider? separator text = some index) :
    ∃ before after, DividesInto separator text before after ∧ index = before.length ∧
      ComesFirst separator text before := by
  simp only [divider?, Option.orElse_eq_orElse, Option.orElse_eq_or, Option.or_eq_some_iff] at found
  rcases found with behind | ⟨noneBehind, atStart⟩
  · have sorted := pairwise_dividers nonempty 0 none text
    obtain ⟨positive, earlier, later, listed, notEarlier⟩ := List.find?_eq_some_iff_append.1 behind
    obtain ⟨before, after, divides, rfl⟩ :=
      (mem_dividers_start_iff nonempty).1 (List.mem_of_find?_eq_some behind)
    refine ⟨before, after, divides, rfl, ?_⟩
    intro other rest dividesThere
    have member := (mem_dividers_start_iff nonempty).2 ⟨other, rest, dividesThere, rfl⟩
    rw [listed] at member sorted
    have solid : before ≠ [] := by
      rintro rfl
      simp at positive
    rcases List.mem_append.1 member with isEarlier | isLater
    · left
      simpa using notEarlier _ isEarlier
    · right
      refine ⟨solid, ?_⟩
      rcases List.mem_cons.1 isLater with same | isLater
      · exact Nat.le_of_eq same.symm
      · have increasing := (List.pairwise_append.1 sorted).2.1
        exact Nat.le_of_lt (List.rel_of_pairwise_cons increasing isLater)
  · rw [List.find?_eq_none] at noneBehind
    have zero : ∀ place ∈ dividers separator 0 none text, place = 0 := by
      intro place member
      simpa using noneBehind place member
    have member := List.mem_of_mem_head? atStart
    obtain ⟨before, after, divides, rfl⟩ := (mem_dividers_start_iff nonempty).1 member
    refine ⟨before, after, divides, rfl, ?_⟩
    intro other rest dividesThere
    exact .inl (List.length_eq_zero_iff.1
      (zero _ ((mem_dividers_start_iff nonempty).2 ⟨other, rest, dividesThere, rfl⟩)))

theorem divider?_eq_of_comesFirst {separator : Text} (nonempty : separator ≠ []) {text before after : Text}
    (divides : DividesInto separator text before after) (first : ComesFirst separator text before) :
    divider? separator text = some before.length := by
  cases found : divider? separator text with
  | none => exact absurd divides ((divider?_eq_none_iff nonempty).1 found before after)
  | some index =>
    obtain ⟨other, rest, dividesThere, rfl, alsoFirst⟩ := exists_of_divider?_eq_some nonempty found
    have sameLength : other.length = before.length := by
      rcases first other rest dividesThere with rfl | ⟨solid, shorter⟩
      · rcases alsoFirst before after divides with rfl | ⟨solid, -⟩
        · rfl
        · exact absurd rfl solid
      · rcases alsoFirst before after divides with rfl | ⟨-, longer⟩
        · exact absurd rfl solid
        · omega
    rw [sameLength]

/-! ## Readings -/

/-- The texts of the bounds that a text gives. -/
inductive Reading where
  | exact (value : Text)
  | between (low high : Text)
  | atLeast (low : Text)
  | atMost (high : Text)
deriving DecidableEq

namespace Reading

def texts : Reading → List Text
  | .exact value => [value]
  | .between low high => [low, high]
  | .atLeast low => [low]
  | .atMost high => [high]

theorem texts_ne_nil (reading : Reading) : reading.texts ≠ [] := by
  cases reading <;> exact List.cons_ne_nil _ _

/-- The reading of the two sides of a separator, of which one may be left out. -/
def ofSides : Text → Text → Option Reading
  | [], [] => none
  | [], c :: high => some (.atMost (c :: high))
  | c :: low, [] => some (.atLeast (c :: low))
  | c :: low, d :: high => some (.between (c :: low) (d :: high))

/-- The reading that is taken of a text. -/
def of? (separator body : Text) : Option Reading :=
  match divider? separator body with
  | none => some (.exact body)
  | some index => ofSides (trim (body.take index)) (trim (body.drop (index + separator.length)))

/-- The bounds that a reading gives, if `literal` says what the texts of bounds mean and `le` how the meanings
are ordered. -/
inductive Bounds {α : Type} (literal : Text → α → Prop) (le : α → α → Prop) :
    Reading → Option α → Option α → Prop
  | exact {value : Text} {a : α} (means : literal value a) :
      Bounds literal le (.exact value) (some a) (some a)
  | between {low high : Text} {a b : α} (lowMeans : literal low a) (highMeans : literal high b)
      (ordered : le a b) : Bounds literal le (.between low high) (some a) (some b)
  | atLeast {low : Text} {a : α} (means : literal low a) : Bounds literal le (.atLeast low) (some a) none
  | atMost {high : Text} {b : α} (means : literal high b) : Bounds literal le (.atMost high) none (some b)

/-- Bounds of the same texts under other meanings. -/
theorem Bounds.map {α β : Type} {literal : Text → α → Prop} {le : α → α → Prop}
    {otherLiteral : Text → β → Prop} {otherLe : β → β → Prop} {reading : Reading} {low high : Option α}
    (bounds : reading.Bounds literal le low high) (f : α → β)
    (meansToo : ∀ part ∈ reading.texts, ∀ a, literal part a → otherLiteral part (f a))
    (orderedToo : ∀ s t a b, literal s a → literal t b → le a b → otherLe (f a) (f b)) :
    reading.Bounds otherLiteral otherLe (low.map f) (high.map f) := by
  cases bounds with
  | exact means => exact .exact (meansToo _ (by simp [texts]) _ means)
  | between lowMeans highMeans ordered =>
    exact .between (meansToo _ (by simp [texts]) _ lowMeans) (meansToo _ (by simp [texts]) _ highMeans)
      (orderedToo _ _ _ _ lowMeans highMeans ordered)
  | atLeast means => exact .atLeast (meansToo _ (by simp [texts]) _ means)
  | atMost means => exact .atMost (meansToo _ (by simp [texts]) _ means)

theorem Bounds.imp {α : Type} {literal otherLiteral : Text → α → Prop} {le otherLe : α → α → Prop}
    {reading : Reading} {low high : Option α} (bounds : reading.Bounds literal le low high)
    (meansToo : ∀ part ∈ reading.texts, ∀ a, literal part a → otherLiteral part a)
    (orderedToo : ∀ s t a b, literal s a → literal t b → le a b → otherLe a b) :
    reading.Bounds otherLiteral otherLe low high := by
  have mapped := bounds.map id meansToo orderedToo
  rwa [Option.map_id, id, id] at mapped

/-- Bounds whose values all come from another type come from bounds of that type. -/
theorem Bounds.exists_of_map {α β : Type} {literal : Text → α → Prop} {le : α → α → Prop}
    {otherLiteral : Text → β → Prop} {otherLe : β → β → Prop} {f : α → β} {reading : Reading}
    {low high : Option β} (bounds : reading.Bounds otherLiteral otherLe low high)
    (meansToo : ∀ part ∈ reading.texts, ∀ value, otherLiteral part value → ∃ a, literal part a ∧ value = f a)
    (orderedToo : ∀ a b, otherLe (f a) (f b) → le a b) :
    ∃ least greatest, reading.Bounds literal le least greatest ∧ low = least.map f ∧ high = greatest.map f := by
  cases bounds with
  | exact means =>
    obtain ⟨a, meant, rfl⟩ := meansToo _ (by simp [texts]) _ means
    exact ⟨some a, some a, .exact meant, rfl, rfl⟩
  | between lowMeans highMeans ordered =>
    obtain ⟨a, lowMeant, rfl⟩ := meansToo _ (by simp [texts]) _ lowMeans
    obtain ⟨b, highMeant, rfl⟩ := meansToo _ (by simp [texts]) _ highMeans
    exact ⟨some a, some b, .between lowMeant highMeant (orderedToo a b ordered), rfl, rfl⟩
  | atLeast means =>
    obtain ⟨a, meant, rfl⟩ := meansToo _ (by simp [texts]) _ means
    exact ⟨some a, none, .atLeast meant, rfl, rfl⟩
  | atMost means =>
    obtain ⟨b, meant, rfl⟩ := meansToo _ (by simp [texts]) _ means
    exact ⟨none, some b, .atMost meant, rfl, rfl⟩

/-- Every text of a reading with bounds means something. -/
theorem Bounds.exists_literal {α : Type} {literal : Text → α → Prop} {le : α → α → Prop} {reading : Reading}
    {low high : Option α} (bounds : reading.Bounds literal le low high) :
    ∀ part ∈ reading.texts, ∃ a, literal part a := by
  intro part member
  cases bounds with
  | exact means => exact List.mem_singleton.1 member ▸ ⟨_, means⟩
  | between lowMeans highMeans _ =>
    rcases List.mem_pair.1 member with rfl | rfl
    · exact ⟨_, lowMeans⟩
    · exact ⟨_, highMeans⟩
  | atLeast means => exact List.mem_singleton.1 member ▸ ⟨_, means⟩
  | atMost means => exact List.mem_singleton.1 member ▸ ⟨_, means⟩

theorem Bounds.isSome_or {α : Type} {literal : Text → α → Prop} {le : α → α → Prop} {reading : Reading}
    {low high : Option α} (bounds : reading.Bounds literal le low high) :
    low.isSome = true ∨ high.isSome = true := by
  cases bounds with
  | exact => exact .inl rfl
  | between => exact .inl rfl
  | atLeast => exact .inl rfl
  | atMost => exact .inr rfl

end Reading

theorem draftBuild_eq_ok_iff {field : Field} {min max : Option Bound} {range : Range} :
    draftBuild ⟨some field, min, max⟩ = .ok range ↔
      range = ⟨field, min, max⟩ ∧ (min.isSome = true ∨ max.isSome = true) ∧
        ∀ low ∈ min, ∀ high ∈ max, low.exceeds? high = some false := by
  rw [← make_eq_ok_iff]
  change (make field min max).mapError ValueFault.invalid = .ok range ↔ _
  cases make field min max with
  | error fault => simp [Except.mapError]
  | ok made => simp [Except.mapError]

/-- The bounds that a reading gives when each of its texts is read. -/
def Reading.ReadBounds (bound : Text → Except ValueFault Bound) : Reading → Option Bound → Option Bound → Prop :=
  Bounds (fun part value => bound part = .ok value) (fun low high => low.exceeds? high = some false)

theorem read_exact_iff {field : Field} {bound : Text → Except ValueFault Bound} {body : Text} {range : Range} :
    (do let value ← bound body
        draftBuild ((RangeDraft.mk (some field) none none).setExact (some value))) = .ok range ↔
      range.field = field ∧ (Reading.exact body).ReadBounds bound range.min range.max := by
  constructor
  · intro success
    obtain ⟨value, reading, built⟩ := Outcome.bind_eq_ok success
    obtain ⟨rfl, -, -⟩ := draftBuild_eq_ok_iff.1 built
    exact ⟨rfl, .exact reading⟩
  · obtain ⟨rangeField, min, max⟩ := range
    rintro ⟨rfl, bounds⟩
    cases bounds with
    | @exact _ value means =>
      rw [means]
      refine draftBuild_eq_ok_iff.2 ⟨rfl, .inl rfl, ?_⟩
      rintro low ⟨⟩ high ⟨⟩
      exact value.exceeds?_self

theorem readSide_cons_iff {bound : Text → Except ValueFault Bound} {c : Char} {rest : Text}
    {side : Option Bound} :
    readSide bound (c :: rest) = .ok side ↔ ∃ value, bound (c :: rest) = .ok value ∧ side = some value := by
  rw [readSide, if_neg (by simp)]
  cases bound (c :: rest) with
  | error fault => simp [Except.map]
  | ok value => simp [Except.map, eq_comm]

/-- The reading of two sides has the bounds that are read from the sides. -/
theorem readBounds_of_ofSides {bound : Text → Except ValueFault Bound} {low high : Text} {reading : Reading}
    (sides : Reading.ofSides low high = some reading) {min max : Option Bound} :
    reading.ReadBounds bound min max ↔
      readSide bound low = .ok min ∧ readSide bound high = .ok max ∧
        ∀ a ∈ min, ∀ b ∈ max, a.exceeds? b = some false := by
  cases low with
  | nil =>
    cases high with
    | nil => cases sides
    | cons d high =>
      cases sides
      rw [readSide_cons_iff]
      constructor
      · intro bounds
        cases bounds with
        | atMost means => exact ⟨rfl, ⟨_, means, rfl⟩, fun _ isLow => by cases isLow⟩
      · rintro ⟨⟨⟩, ⟨value, means, rfl⟩, -⟩
        exact .atMost means
  | cons c low =>
    rw [readSide_cons_iff]
    cases high with
    | nil =>
      cases sides
      constructor
      · intro bounds
        cases bounds with
        | atLeast means => exact ⟨⟨_, means, rfl⟩, rfl, fun _ _ _ isHigh => by cases isHigh⟩
      · rintro ⟨⟨value, means, rfl⟩, ⟨⟩, -⟩
        exact .atLeast means
    | cons d high =>
      cases sides
      rw [readSide_cons_iff]
      constructor
      · intro bounds
        cases bounds with
        | between lowMeans highMeans ordered =>
          refine ⟨⟨_, lowMeans, rfl⟩, ⟨_, highMeans, rfl⟩, ?_⟩
          rintro _ ⟨⟩ _ ⟨⟩
          exact ordered
      · rintro ⟨⟨a, lowMeans, rfl⟩, ⟨b, highMeans, rfl⟩, ordered⟩
        exact .between lowMeans highMeans (ordered a rfl b rfl)

theorem read_sides_iff {field : Field} {bound : Text → Except ValueFault Bound} {low high : Text}
    {range : Range} :
    (if low.isEmpty && high.isEmpty then .error .boundRequired
      else do
        let min ← readSide bound low
        let max ← readSide bound high
        draftBuild ⟨some field, min, max⟩ : Except ValueFault Range) = .ok range ↔
      ∃ reading, Reading.ofSides low high = some reading ∧ range.field = field ∧
        reading.ReadBounds bound range.min range.max := by
  cases sides : Reading.ofSides low high with
  | none =>
    have missing : low = [] ∧ high = [] := by
      cases low <;> cases high <;> simp [Reading.ofSides] at sides ⊢
    simp [missing]
  | some reading =>
    have present : ¬(low.isEmpty && high.isEmpty) = true := by
      cases low <;> cases high <;> simp [Reading.ofSides] at sides ⊢
    rw [if_neg present]
    simp only [Option.some.injEq, exists_eq_left', readBounds_of_ofSides sides]
    constructor
    · intro success
      obtain ⟨min, lowRead, success⟩ := Outcome.bind_eq_ok success
      obtain ⟨max, highRead, built⟩ := Outcome.bind_eq_ok success
      obtain ⟨rfl, -, ordered⟩ := draftBuild_eq_ok_iff.1 built
      exact ⟨rfl, lowRead, highRead, ordered⟩
    · rintro ⟨rfl, lowRead, highRead, ordered⟩
      have bounded := ((readBounds_of_ofSides sides).2 ⟨lowRead, highRead, ordered⟩).isSome_or
      rw [lowRead, highRead]
      exact draftBuild_eq_ok_iff.2 ⟨rfl, bounded, ordered⟩

/-- A range is read exactly if the reading that is taken of the text has bounds. -/
theorem read_eq_ok_iff {field : Field} {bound : Text → Except ValueFault Bound} {separator text : Text}
    {range : Range} (emptyUnread : ∀ value, bound [] ≠ .ok value) :
    read field bound separator text = .ok range ↔
      ∃ reading, Reading.of? separator (trim text) = some reading ∧ range.field = field ∧
        reading.ReadBounds bound range.min range.max := by
  by_cases empty : trim text = []
  · have failed : read field bound separator text = .error .valueRequired := by
      rw [read, empty]
      rfl
    have only : Reading.of? separator [] = some (.exact []) := rfl
    rw [failed, empty, only]
    constructor
    · intro success
      cases success
    · rintro ⟨reading, ⟨⟩, -, bounds⟩
      generalize range.min = min, range.max = max at bounds
      cases bounds with
      | exact means => exact absurd means (emptyUnread _)
  · rw [read, if_neg (by simpa using empty), Reading.of?]
    cases divider? separator (trim text) with
    | none =>
      rw [read_exact_iff]
      simp
    | some index => exact read_sides_iff

/-! ## Spellings -/

/-- A separator is a run of one character that is no blank. -/
structure IsSeparator (separator : Text) : Prop where
  nonempty : separator ≠ []
  uniform : ∀ c ∈ separator, separator.getLast? = some c
  solid : ∀ c ∈ separator, isBlank c = false

theorem IsSeparator.dividesAfter_blank {separator : Text} (isSeparator : IsSeparator separator) {c : Char}
    (blank : isBlank c = true) : dividesAfter separator (some c) = true := by
  have different : separator.getLast? ≠ some c := by
    intro isLast
    have solid := isSeparator.solid c (List.mem_of_getLast? isLast)
    rw [blank] at solid
    cases solid
  have noMark : c ≠ 'e' ∧ c ≠ 'E' := by
    constructor <;> rintro rfl <;> exact absurd blank (by decide)
  simp [dividesAfter, different, noMark]

theorem IsSeparator.dividesAfter_own {separator : Text} (isSeparator : IsSeparator separator) {c : Char}
    (member : c ∈ separator) : dividesAfter separator (some c) = false := by
  simp [dividesAfter, isSeparator.uniform c member]

namespace Reading

/-- The text spells the reading, where blanks may stand on both sides of the separator. -/
inductive Spells (separator : Text) : Reading → Text → Prop
  | exact (value : Text) : Spells separator (.exact value) value
  | between {low before after high : Text} (beforeBlank : allBlank before = true)
      (afterBlank : allBlank after = true) :
      Spells separator (.between low high) (low ++ before ++ separator ++ (after ++ high))
  | atLeast {low before : Text} (beforeBlank : allBlank before = true) :
      Spells separator (.atLeast low) (low ++ before ++ separator)
  | atMost {after high : Text} (afterBlank : allBlank after = true) :
      Spells separator (.atMost high) (separator ++ (after ++ high))

/-- A separator in front is not the sign of an exact value, nor is a further one the sign of an upper bound
from which blanks part the first one. -/
def Unambiguous (separator : Text) : Reading → Text → Prop
  | .exact value, _ => ¬separator <+: value
  | .atMost high, text => text = separator ++ high ∨ ¬separator <+: high
  | .between _ _, _ => True
  | .atLeast _, _ => True

theorem unambiguous_of_unsigned {separator : Text} {reading : Reading}
    (unsigned : ∀ part ∈ reading.texts, ¬separator <+: part) (text : Text) :
    reading.Unambiguous separator text := by
  cases reading with
  | exact value => exact unsigned value (by simp [texts])
  | between low high => trivial
  | atLeast low => trivial
  | atMost high => exact .inr (unsigned high (by simp [texts]))

theorem Spells.isInfix {separator text part : Text} {reading : Reading} (spells : reading.Spells separator text)
    (member : part ∈ reading.texts) : part <:+: text := by
  cases spells with
  | exact value =>
    cases List.mem_singleton.1 member
    exact List.infix_rfl
  | @between low before after high =>
    rcases List.mem_pair.1 member with rfl | rfl
    · exact ⟨[], before ++ separator ++ (after ++ high), by simp⟩
    · exact ⟨low ++ before ++ separator ++ after, [], by simp⟩
  | @atLeast low before =>
    cases List.mem_singleton.1 member
    exact ⟨[], before ++ separator, by simp⟩
  | @atMost after high =>
    cases List.mem_singleton.1 member
    exact ⟨separator ++ after, [], by simp⟩

theorem of?_of_divider? {separator before after : Text}
    (found : divider? separator (before ++ separator ++ after) = some before.length) :
    of? separator (before ++ separator ++ after) = ofSides (trim before) (trim after) := by
  have leftSide : (before ++ separator ++ after).take before.length = before := by simp
  have rightSide : (before ++ separator ++ after).drop (before.length + separator.length) = after := by
    rw [← List.length_append, List.drop_left]
  rw [of?, found]
  dsimp only
  rw [leftSide, rightSide]

theorem ofSides_of_ne_nil {low high : Text} (lowNonempty : low ≠ []) (highNonempty : high ≠ []) :
    ofSides low high = some (.between low high) := by
  obtain ⟨c, low, rfl⟩ := List.exists_cons_of_ne_nil lowNonempty
  obtain ⟨d, high, rfl⟩ := List.exists_cons_of_ne_nil highNonempty
  rfl

theorem ofSides_nil_right {low : Text} (nonempty : low ≠ []) : ofSides low [] = some (.atLeast low) := by
  obtain ⟨c, low, rfl⟩ := List.exists_cons_of_ne_nil nonempty
  rfl

theorem ofSides_nil_left {high : Text} (nonempty : high ≠ []) : ofSides [] high = some (.atMost high) := by
  obtain ⟨d, high, rfl⟩ := List.exists_cons_of_ne_nil nonempty
  rfl

theorem mem_of_ofSides {low high part : Text} {reading : Reading} (sides : ofSides low high = some reading)
    (member : part ∈ reading.texts) : part = low ∨ part = high := by
  cases low with
  | nil =>
    cases high with
    | nil => cases sides
    | cons d high =>
      cases sides
      exact .inr (List.mem_singleton.1 member)
  | cons c low =>
    cases high with
    | nil =>
      cases sides
      exact .inl (List.mem_singleton.1 member)
    | cons d high =>
      cases sides
      exact List.mem_pair.1 member

theorem trimmed_of_of? {separator body : Text} (trimmed : Trimmed body) {reading : Reading}
    (taken : of? separator body = some reading) : ∀ part ∈ reading.texts, Trimmed part := by
  intro part member
  rw [of?] at taken
  split at taken
  next =>
    cases taken
    cases List.mem_singleton.1 member
    exact trimmed
  next =>
    rcases mem_of_ofSides taken member with rfl | rfl
    · exact trimmed_trim _
    · exact trimmed_trim _

/-- Behind blanks a second separator would have divided the text. -/
theorem unambiguous_of_comesFirst {separator blanks high : Text} (isSeparator : IsSeparator separator)
    (blank : allBlank blanks = true)
    (first : ComesFirst separator ([] ++ separator ++ (blanks ++ high)) []) :
    (atMost high).Unambiguous separator ([] ++ separator ++ (blanks ++ high)) := by
  by_cases together : blanks = []
  · left
    rw [together]
    rfl
  · right
    rintro ⟨rest, spelled⟩
    have isLast := List.getLast?_eq_some_getLast together
    have isBlankLast := allBlank_iff.1 blank _ (List.getLast_mem together)
    have divides : DividesInto separator ([] ++ separator ++ (blanks ++ high)) (separator ++ blanks) rest := by
      refine ⟨by simp [← spelled], ?_⟩
      rw [List.getLast?_append_of_ne_nil _ together, isLast]
      exact isSeparator.dividesAfter_blank isBlankLast
    rcases first _ _ divides with empty | ⟨nonempty, -⟩
    · exact together (List.append_eq_nil_iff.1 empty).2
    · exact nonempty rfl

/-- What is read is spelled by the text. -/
theorem spells_of_of? {separator body : Text} (isSeparator : IsSeparator separator) (trimmed : Trimmed body)
    {reading : Reading} (taken : of? separator body = some reading) :
    reading.Spells separator body ∧ reading.Unambiguous separator body := by
  cases found : divider? separator body with
  | none =>
    rw [of?, found] at taken
    cases taken
    refine ⟨.exact body, ?_⟩
    rintro ⟨after, parted⟩
    exact (divider?_eq_none_iff isSeparator.nonempty).1 found [] after ⟨parted.symm, rfl⟩
  | some index =>
    obtain ⟨before, after, ⟨rfl, -⟩, rfl, first⟩ := exists_of_divider?_eq_some isSeparator.nonempty found
    rw [of?_of_divider? found] at taken
    have startsSolid : ∀ c ∈ before.head?, isBlank c = false := by
      intro c isHead
      refine trimmed.head c ?_
      rw [List.append_assoc, List.head?_append, Option.mem_def.1 isHead]
      rfl
    have endsSolid : ∀ c ∈ after.getLast?, isBlank c = false := by
      intro c isLast
      refine trimmed.last c ?_
      rw [List.getLast?_append, Option.mem_def.1 isLast]
      rfl
    obtain ⟨blanks, blank, beforeParts⟩ := exists_trim_append_blanks startsSolid
    obtain ⟨moreBlanks, moreBlank, afterParts⟩ := exists_blanks_append_trim endsSolid
    cases low : trim before with
    | nil =>
      cases eq_nil_of_allBlank_of_head (trim_eq_nil_iff.1 low) startsSolid
      cases high : trim after with
      | nil => rw [low, high] at taken; cases taken
      | cons d more =>
        rw [low, high] at taken
        cases taken
        rw [high] at afterParts
        subst afterParts
        exact ⟨.atMost moreBlank, unambiguous_of_comesFirst isSeparator moreBlank first⟩
    | cons c rest =>
      rw [low] at beforeParts
      cases high : trim after with
      | nil =>
        cases eq_nil_of_allBlank_of_last (trim_eq_nil_iff.1 high) endsSolid
        rw [low, high] at taken
        cases taken
        rw [beforeParts, List.append_nil]
        exact ⟨.atLeast blank, trivial⟩
      | cons d more =>
        rw [low, high] at taken
        cases taken
        rw [high] at afterParts
        rw [beforeParts, afterParts]
        exact ⟨.between blank moreBlank, trivial⟩

end Reading

/-- The text of a bound inside which the separator does not divide, but behind which it may. -/
structure Whole (separator part : Text) : Prop where
  nonempty : part ≠ []
  trimmed : Trimmed part
  inside : ∀ before after, DividesInto separator part before after → before = []
  behind : dividesAfter separator part.getLast? = true

/-- Where a separator divides behind the beginning of a text, a bound with which the text begins has ended. -/
theorem Whole.length_le {separator part rest other after : Text} (isSeparator : IsSeparator separator)
    (whole : Whole separator part) (divides : DividesInto separator (part ++ rest) other after)
    (behindStart : other ≠ []) : part.length ≤ other.length := by
  by_contra tooEarly
  have parted : part ++ rest = other ++ (separator ++ after) := by
    rw [← List.append_assoc]
    exact divides.parted
  rcases List.append_eq_append_iff.1 parted with ⟨more, rfl, -⟩ | ⟨inside, partParts, restParts⟩
  · rw [List.length_append] at tooEarly
    omega
  · rcases List.append_eq_append_iff.1 restParts with ⟨more, rfl, -⟩ | ⟨more, separatorParts, -⟩
    · refine behindStart (whole.inside other more ⟨?_, divides.allowed⟩)
      rw [partParts, List.append_assoc]
    · -- the bound would end with a character of the separator
      have insideNonempty : inside ≠ [] := by
        rintro rfl
        rw [partParts, List.append_nil] at tooEarly
        exact tooEarly le_rfl
      have isLast := List.getLast?_eq_some_getLast insideNonempty
      have member : inside.getLast insideNonempty ∈ separator := by
        rw [separatorParts]
        exact List.mem_append_left _ (List.getLast_mem insideNonempty)
      have behind := whole.behind
      rw [partParts, List.getLast?_append_of_ne_nil _ insideNonempty, isLast,
        isSeparator.dividesAfter_own member] at behind
      cases behind

/-- A separator does not begin among blanks. -/
theorem IsSeparator.length_le {separator blanks rest other after : Text} (isSeparator : IsSeparator separator)
    (blank : allBlank blanks = true) (parted : blanks ++ rest = other ++ (separator ++ after)) :
    blanks.length ≤ other.length := by
  rcases List.append_eq_append_iff.1 parted with ⟨more, rfl, -⟩ | ⟨inside, blankParts, restParts⟩
  · rw [List.length_append]
    omega
  · cases inside with
    | nil => rw [blankParts, List.append_nil]
    | cons c inside =>
      obtain ⟨d, tail, rfl⟩ := List.exists_cons_of_ne_nil isSeparator.nonempty
      obtain ⟨rfl, -⟩ := List.cons.inj restParts
      have isBlankFirst := allBlank_iff.1 blank d (by simp [blankParts])
      rw [isSeparator.solid d List.mem_cons_self] at isBlankFirst
      cases isBlankFirst

/-- Behind a bound and blanks comes the first place to divide. -/
theorem Whole.comesFirst {separator low blanks : Text} (isSeparator : IsSeparator separator)
    (whole : Whole separator low) (blank : allBlank blanks = true) (rest : Text) :
    DividesInto separator (low ++ blanks ++ separator ++ rest) (low ++ blanks) rest ∧
      ComesFirst separator (low ++ blanks ++ separator ++ rest) (low ++ blanks) := by
  have nonempty : low ++ blanks ≠ [] := List.append_ne_nil_of_left_ne_nil whole.nonempty blanks
  refine ⟨⟨rfl, ?_⟩, ?_⟩
  · by_cases together : blanks = []
    · rw [together, List.append_nil]
      exact whole.behind
    · rw [List.getLast?_append_of_ne_nil _ together, List.getLast?_eq_some_getLast together]
      exact isSeparator.dividesAfter_blank (allBlank_iff.1 blank _ (List.getLast_mem together))
  · intro other after divides
    by_cases atStart : other = []
    · exact .inl atStart
    · refine .inr ⟨nonempty, ?_⟩
      have regrouped : low ++ blanks ++ separator ++ rest = low ++ (blanks ++ (separator ++ rest)) := by simp
      have behindLow := whole.length_le isSeparator (regrouped ▸ divides) atStart
      obtain ⟨more, rfl⟩ : low <+: other := by
        have lowBegins : low <+: low ++ blanks ++ separator ++ rest := ⟨blanks ++ separator ++ rest, by simp⟩
        have otherBegins : other <+: low ++ blanks ++ separator ++ rest :=
          ⟨separator ++ after, by rw [divides.parted, List.append_assoc]⟩
        exact List.prefix_of_prefix_length_le lowBegins otherBegins behindLow
      have parted : blanks ++ (separator ++ rest) = more ++ (separator ++ after) := by
        simpa using divides.parted
      have behindBlanks := isSeparator.length_le blank parted
      rw [List.length_append, List.length_append]
      omega

/-- In front of an upper bound stands the only place to divide. -/
theorem Whole.comesFirst_leading {separator blanks high : Text} (isSeparator : IsSeparator separator)
    (whole : Whole separator high) (blank : allBlank blanks = true)
    (unambiguous : (Reading.atMost high).Unambiguous separator (separator ++ (blanks ++ high))) :
    ComesFirst separator (separator ++ (blanks ++ high)) [] := by
  rintro other rest ⟨parted, allowed⟩
  left
  by_contra behindStart
  rw [List.append_assoc] at parted
  rcases List.append_eq_append_iff.1 parted with ⟨more, rfl, restParts⟩ | ⟨inside, separatorParts, -⟩
  · by_cases ended : more = []
    · subst ended
      rw [List.append_nil, List.getLast?_eq_some_getLast isSeparator.nonempty,
        isSeparator.dividesAfter_own (List.getLast_mem _)] at allowed
      cases allowed
    · have behindBlanks := isSeparator.length_le blank restParts
      obtain ⟨into, rfl⟩ : blanks <+: more := by
        have moreBegins : more <+: blanks ++ high := ⟨separator ++ rest, restParts.symm⟩
        exact List.prefix_of_prefix_length_le (List.prefix_append blanks high) moreBegins behindBlanks
      have highParts : high = into ++ separator ++ rest := by simpa using restParts
      cases into with
      | nil =>
        rw [List.append_nil] at ended
        rcases unambiguous with together | unsigned
        · exact ended (by simpa using together)
        · exact unsigned ⟨rest, highParts.symm⟩
      | cons c into =>
        refine List.cons_ne_nil c into (whole.inside (c :: into) rest ⟨highParts, ?_⟩)
        rwa [← List.append_assoc, List.getLast?_append_of_ne_nil _ (by simp)] at allowed
  · have member : other.getLast behindStart ∈ separator := by
      rw [separatorParts]
      exact List.mem_append_left _ (List.getLast_mem behindStart)
    rw [List.getLast?_eq_some_getLast behindStart, isSeparator.dividesAfter_own member] at allowed
    cases allowed

namespace Reading

theorem trim_append_blanks {part blanks : Text} (trimmed : Trimmed part) (blank : allBlank blanks = true) :
    trim (part ++ blanks) = part := by
  simpa using @trim_surrounded [] part blanks rfl blank trimmed

theorem trim_blanks_append {part blanks : Text} (trimmed : Trimmed part) (blank : allBlank blanks = true) :
    trim (blanks ++ part) = part := by
  simpa using @trim_surrounded blanks part [] blank rfl trimmed

/-- A spelling of bounds that cannot be divided is read as it was meant. -/
theorem of?_of_spells {separator body : Text} (isSeparator : IsSeparator separator) {reading : Reading}
    (spells : reading.Spells separator body) (unambiguous : reading.Unambiguous separator body)
    (whole : ∀ part ∈ reading.texts, Whole separator part) : of? separator body = some reading := by
  cases spells with
  | exact =>
    have isWhole := whole body (by simp [texts])
    have undivided : divider? separator body = none := by
      rw [divider?_eq_none_iff isSeparator.nonempty]
      intro before after divides
      cases isWhole.inside before after divides
      exact unambiguous ⟨after, divides.parted.symm⟩
    rw [of?, undivided]
  | @between low before after high beforeBlank afterBlank =>
    have lowWhole := whole low (by simp [texts])
    have highWhole := whole high (by simp [texts])
    obtain ⟨divides, first⟩ := lowWhole.comesFirst isSeparator beforeBlank (after ++ high)
    rw [of?_of_divider? (divider?_eq_of_comesFirst isSeparator.nonempty divides first),
      trim_append_blanks lowWhole.trimmed beforeBlank, trim_blanks_append highWhole.trimmed afterBlank,
      ofSides_of_ne_nil lowWhole.nonempty highWhole.nonempty]
  | @atLeast low before beforeBlank =>
    have lowWhole := whole low (by simp [texts])
    obtain ⟨divides, first⟩ := lowWhole.comesFirst isSeparator beforeBlank []
    have taken := of?_of_divider? (divider?_eq_of_comesFirst isSeparator.nonempty divides first)
    rw [List.append_nil] at taken
    rw [taken, trim_append_blanks lowWhole.trimmed beforeBlank]
    exact ofSides_nil_right lowWhole.nonempty
  | @atMost after high afterBlank =>
    have highWhole := whole high (by simp [texts])
    have first := highWhole.comesFirst_leading isSeparator afterBlank unambiguous
    have divides : DividesInto separator ([] ++ separator ++ (after ++ high)) [] (after ++ high) := ⟨rfl, rfl⟩
    have taken := of?_of_divider? (divider?_eq_of_comesFirst isSeparator.nonempty divides first)
    rw [trim_blanks_append highWhole.trimmed afterBlank] at taken
    exact taken.trans (ofSides_nil_left highWhole.nonempty)

example : of? ['-'] "-1e-3 - -2e5".toList = some (.between "-1e-3".toList "-2e5".toList) := by
  decide

/-- A text spells at most one reading of bounds that cannot be divided. -/
theorem Spells.unique {separator body : Text} (isSeparator : IsSeparator separator) {reading other : Reading}
    (spells : reading.Spells separator body) (unambiguous : reading.Unambiguous separator body)
    (whole : ∀ part ∈ reading.texts, Whole separator part) (otherSpells : other.Spells separator body)
    (otherUnambiguous : other.Unambiguous separator body)
    (otherWhole : ∀ part ∈ other.texts, Whole separator part) : reading = other := by
  have taken := of?_of_spells isSeparator spells unambiguous whole
  rw [of?_of_spells isSeparator otherSpells otherUnambiguous otherWhole] at taken
  exact (Option.some.inj taken).symm

end Reading

/-- A range that is read is spelled by the text, with bounds that are read from trimmed parts of it. -/
theorem exists_spells_of_read {field : Field} {bound : Text → Except ValueFault Bound} {separator text : Text}
    {range : Range} (isSeparator : IsSeparator separator) (emptyUnread : ∀ value, bound [] ≠ .ok value)
    (success : read field bound separator text = .ok range) :
    range.field = field ∧ ∃ reading : Reading, reading.Spells separator (trim text) ∧
      reading.Unambiguous separator (trim text) ∧ (∀ part ∈ reading.texts, Trimmed part) ∧
      reading.ReadBounds bound range.min range.max := by
  obtain ⟨reading, taken, sameField, bounds⟩ := (read_eq_ok_iff emptyUnread).1 success
  obtain ⟨spells, unambiguous⟩ := Reading.spells_of_of? isSeparator (trimmed_trim text) taken
  exact ⟨sameField, reading, spells, unambiguous, Reading.trimmed_of_of? (trimmed_trim text) taken, bounds⟩

theorem read_of_spells {bound : Text → Except ValueFault Bound} {separator text : Text} {reading : Reading}
    {low high : Option Bound} (isSeparator : IsSeparator separator) (emptyUnread : ∀ value, bound [] ≠ .ok value)
    (spells : reading.Spells separator (trim text)) (unambiguous : reading.Unambiguous separator (trim text))
    (whole : ∀ part ∈ reading.texts, Whole separator part) (bounds : reading.ReadBounds bound low high)
    (field : Field) : read field bound separator text = .ok ⟨field, low, high⟩ :=
  (read_eq_ok_iff emptyUnread).2
    ⟨reading, Reading.of?_of_spells isSeparator spells unambiguous whole, rfl, bounds⟩

end Range

/-- A reader of ranges gives the range that is read. -/
theorem FieldReader.convert_eq_ok_iff {reader : FieldReader} {bound : Text → Except ValueFault Bound}
    {separator : Text} {segment : Segment} {query : Query}
    (ranged : reader.kind.read reader.field segment.value =
      (Range.read reader.field bound separator segment.value).map .range) :
    reader.convert segment = .ok query ↔
      ∃ range, query = .range range ∧ Range.read reader.field bound separator segment.value = .ok range := by
  rw [convert, ranged]
  cases Range.read reader.field bound separator segment.value with
  | error fault => simp [Except.map, Except.mapError]
  | ok range => simp [Except.map, Except.mapError, eq_comm]

end SearchQuery
