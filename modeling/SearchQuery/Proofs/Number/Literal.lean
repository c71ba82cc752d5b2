import Mathlib.Tactic.NormNum
import Mathlib.Data.Rat.Cast.Order
import SearchQuery.Proofs.Reading.Division

/-!
# Literals of numbers

An integer is read back from the numeral that is written for it.  In whatever is read as a number a dash stands only
in front or right behind an exponent mark, and the last character is neither a dash nor such a mark, so that a dash
that divides a range is never taken from a number.  Numbers are compared by their exact values.
-/

set_option autoImplicit false

namespace SearchQuery

open SearchQuery.Text

/-! ## Digits -/

namespace Text

theorem toNat_of_isDigit {c : Char} (digit : c.isDigit = true) : 48 ≤ c.toNat ∧ c.toNat ≤ 57 := by
  simpa [Char.isDigit, UInt32.le_iff_toNat_le] using digit

theorem digitValue?_of_isDigit {c : Char} (digit : c.isDigit = true) :
    digitValue? c = some (c.toNat - 48) := by
  obtain ⟨above, below⟩ := toNat_of_isDigit digit
  rw [digitValue?, digitZeros, List.findSome?_cons, if_pos ⟨above, by omega⟩]

theorem ofDigits_map_decimal (n : Nat) : ofDigits 10 ((decimal n).map fun c => c.toNat - 48) = n := by
  rw [ofDigits, List.foldl_map]
  exact Nat.ofDigitChars_toDigits (by decide) (by decide)

theorem isDigit_of_mem_decimal {n : Nat} {c : Char} (member : c ∈ decimal n) : c.isDigit = true :=
  Nat.isDigit_of_mem_toDigits (by decide) (by decide) member

end Text

namespace Numeral

theorem digits?_cons {c : Char} {rest : Text} (nonempty : rest ≠ []) (ungrouped : rest.head? ≠ some '_') :
    digits? (c :: rest) = (digitValue? c).bind fun d => (digits? rest).map (d :: ·) := by
  obtain ⟨next, more, rfl⟩ := List.exists_cons_of_ne_nil nonempty
  have ordinary : next ≠ '_' := fun same => ungrouped (by rw [same]; rfl)
  rw [digits?]
  · cases digitValue? c with
    | none => rfl
    | some d => cases digits? (next :: more) <;> rfl
  · simp
  · intro rest' same
    exact ordinary (List.cons.inj same).1

/-- A run of digits of any script, without grouping. -/
theorem digits?_of_digits {value : Char → Nat} {s : Text} (nonempty : s ≠ [])
    (digits : ∀ c ∈ s, digitValue? c = some (value c)) : digits? s = some (s.map value) := by
  induction s with
  | nil => exact absurd rfl nonempty
  | cons c rest ih =>
    obtain ⟨first, later⟩ := List.forall_mem_cons.1 digits
    cases rest with
    | nil => simp [digits?, first]
    | cons next more =>
      have ungrouped : (next :: more).head? ≠ some '_' := by
        rintro ⟨⟩
        have known := later '_' List.mem_cons_self
        rw [show digitValue? '_' = none by decide] at known
        cases known
      rw [digits?_cons (by simp) ungrouped, first, ih (by simp) later]
      rfl

theorem digits?_decimal (n : Nat) :
    digits? (decimal n) = some ((decimal n).map fun c => c.toNat - 48) :=
  digits?_of_digits Nat.toDigits_ne_nil fun _ member => digitValue?_of_isDigit (isDigit_of_mem_decimal member)

/-! ## Signs and padding -/

theorem unpad_eq_self {s : Text} (trimmed : Trimmed s) : unpad s = s := by
  have solid : ∀ {c : Char}, isBlank c = false → ¬isPadding c = true := by
    intro c noBlank padding
    rw [isPadding, noBlank, Bool.false_and] at padding
    cases padding
  have front : s.dropWhile isPadding = s := by
    cases s with
    | nil => rfl
    | cons c rest => exact List.dropWhile_cons_of_neg (solid (trimmed.head c rfl))
  have back : s.rdropWhile isPadding = s := by
    rw [List.rdropWhile_eq_self_iff]
    intro nonempty
    exact solid (trimmed.last _ (List.getLast_mem_getLast? nonempty))
  rw [unpad, front]
  exact back

def IsSign (sign : Text) : Prop :=
  sign = [] ∨ sign = ['-'] ∨ sign = ['+']

theorem exists_sign (s : Text) : ∃ sign, IsSign sign ∧ s = sign ++ (splitSign s).2 := by
  rw [splitSign.eq_def]
  split
  · exact ⟨['-'], .inr (.inl rfl), rfl⟩
  · exact ⟨['+'], .inr (.inr rfl), rfl⟩
  · exact ⟨[], .inl rfl, rfl⟩

theorem splitSign_of_head {s : Text} (noDash : s.head? ≠ some '-') (noPlus : s.head? ≠ some '+') :
    splitSign s = (false, s) := by
  rw [splitSign.eq_def]
  split
  · exact absurd rfl noDash
  · exact absurd rfl noPlus
  · rfl

/-! ## Integers -/

theorem isBlank_of_isDigit {c : Char} (digit : c.isDigit = true) : isBlank c = false := by
  obtain ⟨above, below⟩ := toNat_of_isDigit digit
  simp only [isBlank, Bool.or_eq_false_iff, Bool.and_eq_false_iff, decide_eq_false_iff_not, beq_eq_false_iff_ne]
  omega

theorem ne_of_isDigit {c d : Char} (digit : c.isDigit = true) (other : d.isDigit = false) : c ≠ d := by
  rintro rfl
  rw [digit] at other
  cases other

theorem head?_decimal_ne {n : Nat} {d : Char} (other : d.isDigit = false) : (decimal n).head? ≠ some d := by
  intro isHead
  exact ne_of_isDigit (isDigit_of_mem_decimal (List.mem_of_mem_head? isHead)) other rfl

theorem noBlank_writeInteger (n : Int) : ∀ c ∈ writeInteger n, isBlank c = false := by
  intro c member
  rw [writeInteger.eq_def] at member
  split at member
  next => exact isBlank_of_isDigit (isDigit_of_mem_decimal member)
  next =>
    rcases List.mem_cons.1 member with rfl | inDecimal
    · decide
    · exact isBlank_of_isDigit (isDigit_of_mem_decimal inDecimal)

theorem trimmed_writeInteger (n : Int) : Trimmed (writeInteger n) :=
  trimmed_of_noBlank (noBlank_writeInteger n)

theorem ofDigitRun_decimal {n : Nat} (short : n < 10 ^ maxDigits) :
    ofDigitRun ((decimal n).map fun c => c.toNat - 48) = .ok n := by
  have fits : (decimal n).length ≤ maxDigits := (Nat.length_toDigits_le_iff (by decide) (by decide)).2 short
  rw [ofDigitRun, List.length_map, if_neg (by omega), ofDigits_map_decimal]

theorem readInteger_eq {s body : Text} {negative : Bool} {digits : List Nat} (trimmed : Trimmed s)
    (sign : splitSign s = (negative, body)) (spelled : digits? body = some digits) :
    readInteger s = (ofDigitRun digits).map (signed negative) := by
  rw [readInteger, unpad_eq_self trimmed, sign]
  simp only [spelled]

/-- An integer of no more than the permitted digits is read back from its numeral. -/
theorem readInteger_writeInteger {n : Int} (short : n.natAbs < 10 ^ maxDigits) :
    readInteger (writeInteger n) = .ok n := by
  have trimmed := trimmed_writeInteger n
  cases n with
  | ofNat m =>
    have sign : splitSign (decimal m) = (false, decimal m) :=
      splitSign_of_head (head?_decimal_ne (by decide)) (head?_decimal_ne (by decide))
    have fits : m < 10 ^ maxDigits := short
    rw [readInteger_eq trimmed sign (digits?_decimal m), ofDigitRun_decimal fits]
    rfl
  | negSucc m =>
    have fits : m + 1 < 10 ^ maxDigits := short
    rw [readInteger_eq trimmed rfl (digits?_decimal (m + 1)), ofDigitRun_decimal fits]
    rfl

/-! ## Dashes in numbers -/

/-- What no dash and no exponent mark belongs to. -/
def IsPlain (s : Text) : Prop :=
  ∀ c ∈ s, c ≠ '-' ∧ c ≠ 'e' ∧ c ≠ 'E'

theorem isPlain_append {s t : Text} : IsPlain (s ++ t) ↔ IsPlain s ∧ IsPlain t :=
  List.forall_mem_append

theorem ne_of_digitValue? {c d : Char} {n : Nat} (digit : digitValue? c = some n) (other : digitValue? d = none) :
    c ≠ d := by
  rintro rfl
  rw [digit] at other
  cases other

theorem isPlain_digit {c : Char} {d : Nat} (digit : digitValue? c = some d) : IsPlain [c] := by
  intro e member
  cases List.mem_singleton.1 member
  exact ⟨ne_of_digitValue? digit (by decide), ne_of_digitValue? digit (by decide),
    ne_of_digitValue? digit (by decide)⟩

theorem isPlain_of_digits? {s : Text} {digits : List Nat} (success : digits? s = some digits) :
    s ≠ [] ∧ IsPlain s := by
  fun_induction digits? s generalizing digits with
  | case1 => cases success
  | case2 c =>
    obtain ⟨d, digit, -⟩ := Option.map_eq_some_iff.1 success
    exact ⟨by simp, isPlain_digit digit⟩
  | case3 c rest ih =>
    obtain ⟨d, digit, success⟩ := Option.bind_eq_some_iff.1 success
    obtain ⟨ds, later, -⟩ := Option.bind_eq_some_iff.1 success
    exact ⟨by simp, isPlain_append.2 ⟨isPlain_digit digit,
      isPlain_append.2 ⟨(by simp [IsPlain] : IsPlain ['_']), (ih later).2⟩⟩⟩
  | case4 c rest _ _ ih =>
    obtain ⟨d, digit, success⟩ := Option.bind_eq_some_iff.1 success
    obtain ⟨ds, later, -⟩ := Option.bind_eq_some_iff.1 success
    exact ⟨by simp, isPlain_append.2 ⟨isPlain_digit digit, (ih later).2⟩⟩

/-- A number behind its sign, as far as dashes and exponent marks go. -/
inductive IsUnsigned : Text → Prop
  | plain {s : Text} (nonempty : s ≠ []) (isPlain : IsPlain s) : IsUnsigned s
  | scientific {s digits sign : Text} {mark : Char} (isPlain : IsPlain s)
      (isMark : Binary64.isExponentMark mark = true) (isSign : IsSign sign) (nonempty : digits ≠ [])
      (digitsPlain : IsPlain digits) : IsUnsigned (s ++ mark :: (sign ++ digits))

theorem isUnsigned_of_readInteger {s : Text} {n : Int} (trimmed : Trimmed s) (success : readInteger s = .ok n) :
    IsUnsigned (splitSign s).2 := by
  rw [readInteger, unpad_eq_self trimmed] at success
  dsimp only at success
  split at success
  next => cases success
  next digits spelled =>
    obtain ⟨nonempty, isPlain⟩ := isPlain_of_digits? spelled
    exact .plain nonempty isPlain

theorem isPlain_point : IsPlain ['.'] := by
  simp [IsPlain]

theorem isPlain_of_readSignificand? {s : Text} {parts : List Nat × List Nat}
    (success : Binary64.readSignificand? s = some parts) : s ≠ [] ∧ IsPlain s := by
  have spelled : s = s.takeWhile (· ≠ '.') ++ s.dropWhile (· ≠ '.') := List.takeWhile_append_dropWhile.symm
  have point : ∀ c ∈ (s.dropWhile (· ≠ '.')).head?, c = '.' := by
    intro c isHead
    have stopped := List.head?_dropWhile_not (fun c => decide (c ≠ '.')) s
    rw [Option.mem_def.1 isHead] at stopped
    simpa using stopped
  rw [Binary64.readSignificand?] at success
  split at success
  next ended =>
    obtain ⟨digits, wholeRead, -⟩ := Option.map_eq_some_iff.1 success
    rw [ended, List.append_nil] at spelled
    rw [spelled]
    exact isPlain_of_digits? wholeRead
  next c ended =>
    obtain ⟨digits, wholeRead, -⟩ := Option.map_eq_some_iff.1 success
    rw [ended] at spelled point
    cases point c rfl
    rw [spelled]
    exact ⟨by simp, isPlain_append.2 ⟨(isPlain_of_digits? wholeRead).2, isPlain_point⟩⟩
  next c fraction _ goesOn =>
    obtain ⟨after, fractionRead, success⟩ := Option.bind_eq_some_iff.1 success
    rw [goesOn] at spelled point
    cases point c rfl
    have tailPlain : IsPlain ('.' :: fraction) :=
      isPlain_append.2 ⟨isPlain_point, (isPlain_of_digits? fractionRead).2⟩
    have wholePlain : IsPlain (s.takeWhile (· ≠ '.')) := by
      split at success
      next missing =>
        rw [List.isEmpty_iff.1 missing]
        exact List.forall_mem_nil _
      next =>
        obtain ⟨before, wholeRead, -⟩ := Option.bind_eq_some_iff.1 success
        exact (isPlain_of_digits? wholeRead).2
    rw [spelled]
    exact ⟨by simp, isPlain_append.2 ⟨wholePlain, tailPlain⟩⟩

theorem isUnsigned_of_readDecimal? {negative : Bool} {s : Text} {x : Binary64}
    (success : Binary64.readDecimal? negative s = some x) : IsUnsigned s := by
  rw [Binary64.readDecimal?] at success
  obtain ⟨parts, significandRead, success⟩ := Option.bind_eq_some_iff.1 success
  obtain ⟨exponent, exponentRead, -⟩ := Option.bind_eq_some_iff.1 success
  obtain ⟨nonempty, isPlain⟩ := isPlain_of_readSignificand? significandRead
  have spelled : s = s.takeWhile (!Binary64.isExponentMark ·) ++ s.dropWhile (!Binary64.isExponentMark ·) :=
    List.takeWhile_append_dropWhile.symm
  cases rest : s.dropWhile (!Binary64.isExponentMark ·) with
  | nil =>
    rw [rest, List.append_nil] at spelled
    rw [spelled]
    exact .plain nonempty isPlain
  | cons mark more =>
    have isMark : Binary64.isExponentMark mark = true := by
      have stopped := List.head?_dropWhile_not (!Binary64.isExponentMark ·) s
      rw [rest] at stopped
      simpa using stopped
    rw [rest, Binary64.readExponent?] at exponentRead
    obtain ⟨digits, digitsRead, -⟩ := Option.map_eq_some_iff.1 exponentRead
    obtain ⟨digitsNonempty, digitsPlain⟩ := isPlain_of_digits? digitsRead
    obtain ⟨sign, isSign, signParts⟩ := exists_sign more
    rw [spelled, rest, signParts]
    exact .scientific isPlain isMark isSign digitsNonempty digitsPlain

theorem isUnsigned_of_read? {s : Text} {x : Binary64} (trimmed : Trimmed s) (finite : x.isFinite = true)
    (success : Binary64.read? s = some x) : IsUnsigned (splitSign s).2 := by
  rw [Binary64.read?, unpad_eq_self trimmed] at success
  dsimp only at success
  split at success
  next => cases success; cases finite
  next =>
    split at success
    next => cases success; cases finite
    next => exact isUnsigned_of_readDecimal? success

end Numeral

namespace Bound

open SearchQuery.Numeral

/-- What is read as a number is a sign, if any, and an unsigned number. -/
theorem exists_sign_of_readNumber {s : Text} {bound : Bound} (trimmed : Trimmed s)
    (success : readNumber s = .ok bound) : ∃ sign body, IsSign sign ∧ IsUnsigned body ∧ s = sign ++ body := by
  obtain ⟨sign, isSign, spelled⟩ := exists_sign s
  refine ⟨sign, (splitSign s).2, isSign, ?_, spelled⟩
  rw [readNumber] at success
  split at success
  next n integerRead => exact isUnsigned_of_readInteger trimmed integerRead
  next =>
    split at success
    next => cases success
    next x realRead =>
      split at success
      next finite => exact isUnsigned_of_read? trimmed finite realRead
      next => cases success

end Bound

namespace Range

open SearchQuery.Numeral

theorem isSeparator_dash : IsSeparator ['-'] :=
  ⟨by simp, by simp, List.forall_mem_singleton.2 (by decide)⟩

theorem dividers_of_noDash {part : Text} (noDash : '-' ∉ part) (index : Nat) (previous : Option Char)
    (rest : Text) :
    dividers ['-'] index previous (part ++ rest) =
      dividers ['-'] (index + part.length) (part.getLast?.or previous) rest := by
  induction part generalizing index previous with
  | nil => rfl
  | cons c part ih =>
    rw [List.mem_cons, not_or] at noDash
    have elsewhere : ¬(['-'].isPrefixOf (c :: (part ++ rest)) && dividesAfter ['-'] previous) = true := by
      simp [noDash.1]
    rw [List.cons_append, dividers, if_neg elsewhere, ih noDash.2]
    congr 1
    · rw [List.length_cons]
      omega
    · simp [List.getLast?_cons, Option.or_some]

theorem dividers_of_isPlain {s : Text} (isPlain : IsPlain s) (index : Nat) (previous : Option Char) :
    dividers ['-'] index previous s = [] := by
  have noDash : '-' ∉ s := fun member => (isPlain '-' member).1 rfl
  have scanned := dividers_of_noDash noDash index previous []
  rwa [List.append_nil] at scanned

theorem dividesAfter_exponentMark {mark : Char} (isMark : Binary64.isExponentMark mark = true) :
    dividesAfter ['-'] (some mark) = false := by
  simp only [Binary64.isExponentMark, Bool.or_eq_true, decide_eq_true_eq] at isMark
  rcases isMark with rfl | rfl
  · rfl
  · rfl

/-- The dash behind an exponent mark is a sign. -/
theorem dividers_of_isUnsigned {s : Text} (isUnsigned : IsUnsigned s) (index : Nat) (previous : Option Char) :
    dividers ['-'] index previous s = [] := by
  cases isUnsigned with
  | plain _ isPlain => exact dividers_of_isPlain isPlain index previous
  | @scientific s digits sign mark isPlain isMark isSign _ digitsPlain =>
    have noDash : '-' ∉ s ++ [mark] := by
      intro member
      rcases List.mem_append.1 member with inside | isDash
      · exact (isPlain '-' inside).1 rfl
      · cases List.mem_singleton.1 isDash
        cases isMark
    have scanned := dividers_of_noDash noDash index previous (sign ++ digits)
    rw [List.append_assoc, List.singleton_append, List.getLast?_concat, Option.some_or] at scanned
    rw [scanned]
    rcases isSign with rfl | rfl | rfl
    · exact dividers_of_isPlain digitsPlain _ _
    · rw [List.singleton_append, dividers, dividesAfter_exponentMark isMark, Bool.and_false]
      exact dividers_of_isPlain digitsPlain _ _
    · exact dividers_of_isPlain digitsPlain _ _

theorem exists_last_of_isUnsigned {s : Text} (isUnsigned : IsUnsigned s) :
    ∃ c, s.getLast? = some c ∧ dividesAfter ['-'] (some c) = true := by
  have ofPlain : ∀ {part : Text}, part ≠ [] → IsPlain part →
      ∃ c, part.getLast? = some c ∧ dividesAfter ['-'] (some c) = true := by
    intro part nonempty isPlain
    obtain ⟨noDash, noMark, noCapital⟩ := isPlain _ (List.getLast_mem nonempty)
    exact ⟨_, List.getLast?_eq_some_getLast nonempty, by simp [dividesAfter, noMark, noCapital, noDash.symm]⟩
  cases isUnsigned with
  | plain nonempty isPlain => exact ofPlain nonempty isPlain
  | @scientific s digits sign mark _ _ _ nonempty digitsPlain =>
    obtain ⟨c, isLast, allowed⟩ := ofPlain nonempty digitsPlain
    refine ⟨c, ?_, allowed⟩
    rw [List.getLast?_append_of_ne_nil _ (by simp), ← List.cons_append,
      List.getLast?_append_of_ne_nil _ nonempty, isLast]

/-- A dash divides nothing inside a signed number, but may divide behind it. -/
theorem whole_of_isUnsigned {sign body : Text} (isSign : IsSign sign) (isUnsigned : IsUnsigned body)
    (trimmed : Trimmed (sign ++ body)) : Whole ['-'] (sign ++ body) := by
  obtain ⟨c, isLast, allowed⟩ := exists_last_of_isUnsigned isUnsigned
  have bodyNonempty : body ≠ [] := by
    rintro rfl
    cases isLast
  refine ⟨List.append_ne_nil_of_right_ne_nil sign bodyNonempty, trimmed, ?_, ?_⟩
  · intro before after divides
    have place := (mem_dividers_start_iff isSeparator_dash.nonempty).2 ⟨before, after, divides, rfl⟩
    have onlyFront : before.length ∈ dividers ['-'] 0 none (sign ++ body) → before.length = 0 := by
      rcases isSign with rfl | rfl | rfl
      · rw [List.nil_append, dividers_of_isUnsigned isUnsigned]
        nofun
      · rw [List.singleton_append, mem_dividers_cons, dividers_of_isUnsigned isUnsigned]
        rintro (⟨atStart, -⟩ | ⟨⟨⟩⟩)
        exact atStart
      · rw [List.singleton_append, mem_dividers_cons, dividers_of_isUnsigned isUnsigned]
        rintro (⟨atStart, -⟩ | ⟨⟨⟩⟩)
        exact atStart
    exact List.length_eq_zero_iff.1 (onlyFront place)
  · rw [List.getLast?_append_of_ne_nil _ bodyNonempty, isLast]
    exact allowed

theorem whole_of_readNumber {s : Text} {bound : Bound} (trimmed : Trimmed s)
    (success : Bound.readNumber s = .ok bound) : Whole ['-'] s := by
  obtain ⟨sign, body, isSign, isUnsigned, rfl⟩ := Bound.exists_sign_of_readNumber trimmed success
  exact whole_of_isUnsigned isSign isUnsigned trimmed

end Range

/-! ## Values -/

namespace Binary64

theorem scaledLess_eq (a p b q : Int) :
    scaledLess a p b q = decide ((a : ℚ) * 2 ^ p < b * 2 ^ q) := by
  have shift : ∀ c e : Int, min p q ≤ e →
      ((c * Int.pow 2 (e - min p q).toNat : Int) : ℚ) * 2 ^ (min p q) = c * 2 ^ e := by
    intro c e above
    have power : ((Int.pow 2 (e - min p q).toNat : Int) : ℚ) = 2 ^ (e - min p q) := by
      rw [← Int.toNat_of_nonneg (sub_nonneg.2 above), zpow_natCast, Int.toNat_natCast]
      exact Int.cast_pow 2 _
    rw [Int.cast_mul, power, mul_assoc, ← zpow_add₀ (by norm_num), sub_add_cancel]
  have positive : (0 : ℚ) < 2 ^ (min p q) := zpow_pos (by norm_num) _
  rw [scaledLess, decide_eq_decide, ← shift a p (min_le_left p q), ← shift b q (min_le_right p q),
    mul_lt_mul_iff_left₀ positive, Int.cast_lt]

end Binary64

namespace Bound

/-- The number for which a bound stands, unless it is infinite, undefined or a date. -/
def toRat? : Bound → Option ℚ
  | .integer n => some n
  | .real (.finite negative mantissa exponent) => some (Numeral.signed negative mantissa * 2 ^ exponent)
  | .real _ => none
  | .date _ => none

/-- Both bounds are numbers, of which the first is no greater than the second. -/
def NoGreater (low high : Bound) : Prop :=
  ∃ p q, low.toRat? = some p ∧ high.toRat? = some q ∧ p ≤ q

theorem exists_toRat?_of_readNumber {s : Text} {bound : Bound} (success : readNumber s = .ok bound) :
    ∃ p, bound.toRat? = some p := by
  rw [readNumber] at success
  split at success
  next => cases success; exact ⟨_, rfl⟩
  next =>
    split at success
    next => cases success
    next x _ =>
      split at success
      next finite =>
        cases success
        cases x with
        | finite negative mantissa exponent => exact ⟨_, rfl⟩
        | infinite negative => cases finite
        | nan => cases finite
      next => cases success

/-- Numbers are compared by their values. -/
theorem exceeds?_of_toRat? {low high : Bound} {p q : ℚ} (lowValue : low.toRat? = some p)
    (highValue : high.toRat? = some q) : low.exceeds? high = some (decide (q < p)) := by
  cases low with
  | date d => cases lowValue
  | integer a =>
    cases lowValue
    cases high with
    | date d => cases highValue
    | integer b =>
      cases highValue
      simp [exceeds?]
    | real y =>
      cases y with
      | infinite negative => cases highValue
      | nan => cases highValue
      | finite negative mantissa exponent =>
        cases highValue
        simp only [exceeds?, Binary64.lessInt, Binary64.scaledLess_eq, zpow_zero, mul_one]
  | real x =>
    cases x with
    | infinite negative => cases lowValue
    | nan => cases lowValue
    | finite negative mantissa exponent =>
      cases lowValue
      cases high with
      | date d => cases highValue
      | integer b =>
        cases highValue
        simp only [exceeds?, Binary64.intLess, Binary64.scaledLess_eq, zpow_zero, mul_one]
      | real y =>
        cases y with
        | infinite negative => cases highValue
        | nan => cases highValue
        | finite otherNegative otherMantissa otherExponent =>
          cases highValue
          rw [exceeds?, Binary64.less, Binary64.scaledLess_eq]

theorem noGreater_iff_of_readNumber {low high : Bound} {s t : Text} (lowRead : readNumber s = .ok low)
    (highRead : readNumber t = .ok high) : low.NoGreater high ↔ low.exceeds? high = some false := by
  obtain ⟨p, lowValue⟩ := exists_toRat?_of_readNumber lowRead
  obtain ⟨q, highValue⟩ := exists_toRat?_of_readNumber highRead
  rw [exceeds?_of_toRat? lowValue highValue, Option.some.injEq, decide_eq_false_iff_not, not_lt]
  constructor
  · rintro ⟨_, _, lowAgain, highAgain, ordered⟩
    cases lowValue.symm.trans lowAgain
    cases highValue.symm.trans highAgain
    exact ordered
  · exact fun ordered => ⟨p, q, lowValue, highValue, ordered⟩

end Bound

end SearchQuery
