import SearchQuery.Number.Numeral

/-!
# Binary floating-point numbers

The numbers of the binary64 format: `mantissa * 2 ^ exponent` with a mantissa below `2 ^ 53` and an
exponent from -1074 to 971, the two infinities and the undefined number.  Rounding a ratio goes to
the nearest such number, a tie to the even mantissa.  Comparisons are exact, also with integers.
-/

set_option autoImplicit false

namespace SearchQuery

inductive Binary64 where
  | finite (negative : Bool) (mantissa : Nat) (exponent : Int)
  | infinite (negative : Bool)
  | nan
deriving DecidableEq

namespace Binary64

open SearchQuery.Text SearchQuery.Numeral

def minExponent : Int := -1074

def maxExponent : Int := 971

def mantissaEnd : Nat := 1 <<< 53

def zero (negative : Bool) : Binary64 :=
  .finite negative 0 minExponent

/-- The quotient rounded to the nearest integer, a tie to the even one. -/
def roundQuotient (numerator denominator : Nat) : Nat :=
  let quotient := numerator / denominator
  let twice := 2 * (numerator % denominator)
  if twice < denominator then quotient
  else if denominator < twice then quotient + 1
  else quotient + quotient % 2

/-- The two terms of `numerator / (denominator * 2 ^ exponent)`. -/
def scaled (numerator denominator : Nat) (exponent : Int) : Nat × Nat :=
  match exponent with
  | .ofNat e => (numerator, denominator <<< e)
  | .negSucc e => (numerator <<< (e + 1), denominator)

/-- The least exponent at which the ratio of two positive numbers has a mantissa of 53 bits. -/
def exponentFor (numerator denominator : Nat) : Int :=
  let guess : Int := (numerator.log2 : Int) - (denominator.log2 : Int) - 53
  let terms := scaled numerator denominator guess
  let fitted := if terms.1 / terms.2 < mantissaEnd then guess else guess + 1
  max fitted minExponent

/-- The number nearest to the ratio of two positive numbers. -/
def ofRatio (negative : Bool) (numerator denominator : Nat) : Binary64 :=
  let exponent := exponentFor numerator denominator
  let terms := scaled numerator denominator exponent
  let mantissa := roundQuotient terms.1 terms.2
  let carried := mantissa == mantissaEnd
  let exponent := if carried then exponent + 1 else exponent
  if maxExponent < exponent then .infinite negative
  else .finite negative (if carried then mantissa / 2 else mantissa) exponent

/-- Every decimal number of a magnitude beyond `10 ^ 400` rounds to infinity or to zero. -/
def magnitudeLimit : Int := 400

/-- The number nearest to `significand * 10 ^ exponent`. -/
def ofDecimal (negative : Bool) (significand : Nat) (exponent : Int) : Binary64 :=
  let magnitude := ((decimal significand).length : Int) + exponent
  if significand = 0 then zero negative
  else if magnitudeLimit < magnitude then .infinite negative
  else if magnitude < -magnitudeLimit then zero negative
  else
    match exponent with
    | .ofNat e => ofRatio negative (significand * Nat.pow 10 e) 1
    | .negSucc e => ofRatio negative significand (Nat.pow 10 (e + 1))

/-! ## Reading -/

/-- The digits before and after a decimal point, at least one in all. -/
def readSignificand? (s : Text) : Option (List Nat × List Nat) :=
  let whole := s.takeWhile (· ≠ '.')
  match s.dropWhile (· ≠ '.') with
  | [] => (digits? whole).map (·, [])
  | _ :: [] => (digits? whole).map (·, [])
  | _ :: fraction => do
    let after ← digits? fraction
    if whole.isEmpty then return ([], after)
    let before ← digits? whole
    return (before, after)

def isExponentMark (c : Char) : Bool :=
  c = 'e' || c = 'E'

def readExponent? : Text → Option Int
  | [] => some 0
  | _ :: s =>
    let (negative, body) := splitSign s
    (digits? body).map fun digits => signed negative (ofDigits 10 digits)

/-- A number of the form `whole.fraction e exponent`, where the fraction or the exponent may be
missing. -/
def readDecimal? (negative : Bool) (s : Text) : Option Binary64 := do
  let (before, after) ← readSignificand? (s.takeWhile (!isExponentMark ·))
  let exponent ← readExponent? (s.dropWhile (!isExponentMark ·))
  return ofDecimal negative (ofDigits 10 (before ++ after)) (exponent - (after.length : Int))

/-- A decimal number, an infinity or the undefined number, in the padding and with the sign of an
integer numeral. -/
def read? (s : Text) : Option Binary64 :=
  let (negative, body) := splitSign (unpad s)
  let word := body.map Char.toLower
  if word = "inf".toList ∨ word = "infinity".toList then some (.infinite negative)
  else if word = "nan".toList then some .nan
  else readDecimal? negative body

/-! ## Order -/

def isFinite : Binary64 → Bool
  | .finite _ _ _ => true
  | _ => false

/-- Whether `a * 2 ^ p < b * 2 ^ q`. -/
def scaledLess (a p b q : Int) : Bool :=
  let low := min p q
  a * Int.pow 2 (p - low).toNat < b * Int.pow 2 (q - low).toNat

def less : Binary64 → Binary64 → Bool
  | .nan, _ => false
  | _, .nan => false
  | .infinite a, .infinite b => a && !b
  | .infinite a, .finite _ _ _ => a
  | .finite _ _ _, .infinite b => !b
  | .finite a m p, .finite b n q => scaledLess (signed a m) p (signed b n) q

def lessInt : Binary64 → Int → Bool
  | .nan, _ => false
  | .infinite a, _ => a
  | .finite a m p, n => scaledLess (signed a m) p n 0

def intLess : Int → Binary64 → Bool
  | _, .nan => false
  | _, .infinite b => !b
  | n, .finite b m q => scaledLess n 0 (signed b m) q

end Binary64

end SearchQuery
