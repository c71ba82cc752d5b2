import Mathlib.Data.Nat.ModEq
import SearchQuery.Proofs.Text.Fold
import SearchQuery.Selector.Rule

/-!
# Images of folding

What folding leads to is folded already, and it is never a blank or another character with a meaning of its own
in search strings, unless that character was there before.  Both are read off the table run by run: the images of a
run are an interval, which stays clear of everything that folding changes and of the characters with a meaning.
-/

set_option autoImplicit false
set_option maxRecDepth 4000

namespace SearchQuery.Text

/-! ## Runs -/

namespace CaseRun

/-- Whether no image of a run is a member of another one: the images lie before or behind it, or else between its
members, all of them with the same remainder. -/
def clears (run other : CaseRun) : Bool :=
  Nat.blt (run.image + (run.last - run.first)) other.first || Nat.blt other.last run.image ||
    ((Nat.beq (run.step % other.step) 0 || Nat.beq run.first run.last) &&
      !Nat.beq (run.image % other.step) (other.first % other.step))

/-- Whether all images of a run lie before or behind some code points. -/
def avoids (run : CaseRun) (span : Nat × Nat) : Bool :=
  Nat.blt (run.image + (run.last - run.first)) span.1 || Nat.blt span.2 run.image

theorem imageOf?_eq_some_iff {run : CaseRun} {n image : Nat} :
    run.imageOf? n = some image ↔
      (run.first ≤ n ∧ n ≤ run.last ∧ (n - run.first) % run.step = 0) ∧
        image = run.image + (n - run.first) := by
  rw [imageOf?]
  split
  next member => simp [member, eq_comm]
  next outside => simp [outside]

theorem lt_or_gt_of_avoids {run : CaseRun} {span : Nat × Nat} {n image : Nat}
    (found : run.imageOf? n = some image) (clear : run.avoids span = true) :
    image < span.1 ∨ span.2 < image := by
  obtain ⟨⟨low, high, -⟩, rfl⟩ := imageOf?_eq_some_iff.1 found
  simp only [avoids, Bool.or_eq_true, Nat.blt_eq] at clear
  omega

theorem imageOf?_of_clears {run other : CaseRun} {n image : Nat} (found : run.imageOf? n = some image)
    (clear : run.clears other = true) : other.imageOf? image = none := by
  obtain ⟨⟨low, high, onRun⟩, rfl⟩ := imageOf?_eq_some_iff.1 found
  rw [imageOf?, if_neg]
  rintro ⟨otherLow, otherHigh, onOther⟩
  simp only [clears, Bool.or_eq_true, Bool.and_eq_true, Nat.blt_eq, Nat.beq_eq, Bool.not_eq_true',
    ← Bool.not_eq_true] at clear
  rcases clear with (before | behind) | ⟨alike, between⟩
  · omega
  · omega
  · -- The distance from the first image is a multiple of the other step, so that all images leave one remainder.
    have distance : (n - run.first) % other.step = 0 := by
      rcases alike with divides | single
      · have multiple := (Nat.dvd_of_mod_eq_zero divides).trans (Nat.dvd_of_mod_eq_zero onRun)
        exact Nat.mod_eq_zero_of_dvd multiple
      · have same : n - run.first = 0 := by omega
        rw [same, Nat.zero_mod]
    have remainder : (run.image + (n - run.first)) % other.step = run.image % other.step := by
      rw [Nat.add_mod, distance, Nat.add_zero, Nat.mod_mod]
    have otherRemainder :
        (run.image + (n - run.first)) % other.step = other.first % other.step :=
      ((Nat.modEq_iff_dvd' otherLow).2 (Nat.dvd_of_mod_eq_zero onOther)).symm
    exact between (remainder.symm.trans otherRemainder)

end CaseRun

/-! ## The table -/

/-- The runs of the table, a character with an expansion being a run of its own.  The step of such a run matters only
to what keeps clear of it. -/
def changedRuns : List CaseRun :=
  foldRuns ++ foldExpansions.map fun entry => ⟨entry.1, entry.1, 2, 0⟩

/-- Code points that folding does not lead to: everything before the small letters, the blanks behind them, and the
surrogates. -/
def barredSpans : List (Nat × Nat) :=
  [(0, 0x60), (0x80, 0xA0), (0x1680, 0x1680), (0x2000, 0x205F), (0x3000, 0x3000), (0xD800, 0xDFFF)]

/-- The first number that is no code point. -/
def codePointLimit : Nat := 0x110000

/-- Whether the images of a run are code points that are neither barred nor changed by folding. -/
def CaseRun.isClear (run : CaseRun) : Bool :=
  Nat.blt (run.image + (run.last - run.first)) codePointLimit && barredSpans.all run.avoids &&
    changedRuns.all run.clears

theorem foldRuns_isClear : foldRuns.all CaseRun.isClear = true := by
  decide +kernel

theorem foldExpansions_isClear :
    foldExpansions.all (fun entry => entry.2.all fun n => CaseRun.isClear ⟨n, n, 1, n⟩) = true := by
  decide +kernel

/-- Code points that are neither barred nor changed by folding. -/
structure IsTarget (n : Nat) : Prop where
  limited : n < codePointLimit
  free : ∀ span ∈ barredSpans, n < span.1 ∨ span.2 < n
  fixed : ∀ run ∈ changedRuns, run.imageOf? n = none

theorem isTarget_of_imageOf? {run : CaseRun} {n image : Nat} (clear : run.isClear = true)
    (found : run.imageOf? n = some image) : IsTarget image := by
  simp only [CaseRun.isClear, Bool.and_eq_true, List.all_eq_true, Nat.blt_eq] at clear
  obtain ⟨⟨limited, spans⟩, runs⟩ := clear
  refine ⟨?_, ?_, ?_⟩
  · obtain ⟨⟨low, high, -⟩, rfl⟩ := CaseRun.imageOf?_eq_some_iff.1 found
    omega
  · intro span barred
    exact CaseRun.lt_or_gt_of_avoids found (spans span barred)
  · intro other listed
    exact CaseRun.imageOf?_of_clears found (runs other listed)

/-! ## Characters -/

theorem IsTarget.toNat_ofNat {n : Nat} (target : IsTarget n) : (Char.ofNat n).toNat = n := by
  have limited := target.limited
  have noSurrogate := target.free (0xD800, 0xDFFF) (by simp [barredSpans])
  simp only [codePointLimit] at limited noSurrogate
  have valid : n.isValidChar := by
    rw [Nat.isValidChar]
    omega
  rw [Char.ofNat, dif_pos valid]
  rfl

theorem IsTarget.foldChar_eq_self {c : Char} (target : IsTarget c.toNat) : foldChar c = [c] := by
  have noExpansion : foldExpansions.lookup c.toNat = none := by
    rw [List.lookup_eq_none_iff]
    intro entry listed
    rw [bne_iff_ne]
    intro same
    have outside := target.fixed ⟨entry.1, entry.1, 2, 0⟩
      (List.mem_append_right _ (List.mem_map_of_mem listed))
    simp [CaseRun.imageOf?, same] at outside
  have noRun : foldRuns.findSome? (·.imageOf? c.toNat) = none := by
    rw [List.findSome?_eq_none_iff]
    intro run listed
    exact target.fixed run (List.mem_append_left _ listed)
  rw [foldChar, noExpansion, noRun]

/-- A character that folding leads to is the character that was folded, or it is neither barred nor changed. -/
theorem isTarget_of_mem_foldChar {c d : Char} (member : d ∈ foldChar c) :
    d = c ∧ foldChar c = [c] ∨ IsTarget d.toNat := by
  rw [foldChar] at member ⊢
  split at member
  next image found =>
    obtain ⟨before, after, listed, -⟩ := List.lookup_eq_some_iff.1 found
    obtain ⟨n, inImage, rfl⟩ := List.mem_map.1 member
    have clear := List.all_eq_true.1 foldExpansions_isClear (c.toNat, image) (by simp [listed])
    have isImage : CaseRun.imageOf? ⟨n, n, 1, n⟩ n = some n := by simp [CaseRun.imageOf?]
    have target := isTarget_of_imageOf? (List.all_eq_true.1 clear n inImage) isImage
    rw [target.toNat_ofNat]
    exact .inr target
  next noExpansion =>
    split at member
    next image found =>
      obtain ⟨run, listed, isImage⟩ := List.exists_of_findSome?_eq_some found
      have target := isTarget_of_imageOf? (List.all_eq_true.1 foldRuns_isClear run listed) isImage
      rw [List.mem_singleton.1 member, target.toNat_ofNat]
      exact .inr target
    next noRun => exact .inl ⟨List.mem_singleton.1 member, rfl⟩

theorem foldChar_of_mem_foldChar {c d : Char} (member : d ∈ foldChar c) : foldChar d = [d] := by
  rcases isTarget_of_mem_foldChar member with ⟨rfl, alone⟩ | target
  · exact alone
  · exact target.foldChar_eq_self

theorem foldChar_of_mem_fold {s : Text} {d : Char} (member : d ∈ fold s) : foldChar d = [d] := by
  obtain ⟨c, -, inImage⟩ := List.mem_flatMap.1 member
  exact foldChar_of_mem_foldChar inImage

theorem fold_fold (s : Text) : fold (fold s) = fold s := by
  have each : ∀ d ∈ fold s, foldChar d = [d] := fun d => foldChar_of_mem_fold
  generalize fold s = folded at each
  induction folded with
  | nil => rfl
  | cons d rest ih =>
    obtain ⟨first, later⟩ := List.forall_mem_cons.1 each
    rw [fold_cons, first, ih later]
    rfl

end SearchQuery.Text

namespace SearchQuery.Selector

open SearchQuery.Text

theorem not_isReserved_of_isTarget {c : Char} (target : IsTarget c.toNat) :
    isReserved c = false ∧ c ≠ '-' := by
  have free := target.free
  simp only [barredSpans, List.forall_mem_cons] at free
  obtain ⟨low, high, ogham, general, ideographic, -⟩ := free
  have notAscii : ∀ d : Char, d.toNat ≤ 0x60 → c ≠ d := by
    rintro d ascii rfl
    omega
  have notBlank : isBlank c = false := by
    rw [Bool.eq_false_iff]
    simp only [isBlank, ne_eq, Bool.or_eq_true, Bool.and_eq_true, decide_eq_true_eq, beq_iff_eq]
    omega
  refine ⟨?_, notAscii '-' (by decide)⟩
  simp [isReserved, notBlank, notAscii ':' (by decide), notAscii '"' (by decide),
    notAscii '\\' (by decide)]

/-- Folding brings in no character that has a meaning in search strings. -/
theorem eq_of_mem_foldChar {c d : Char} (member : d ∈ foldChar c)
    (meaning : isReserved d = true ∨ d = '-') : d = c := by
  rcases isTarget_of_mem_foldChar member with ⟨same, -⟩ | target
  · exact same
  · obtain ⟨plain, noDash⟩ := not_isReserved_of_isTarget target
    rw [plain] at meaning
    rcases meaning with reserved | dash
    · cases reserved
    · exact absurd dash noDash

end SearchQuery.Selector
