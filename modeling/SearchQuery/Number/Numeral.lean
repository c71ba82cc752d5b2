import SearchQuery.Text.Blank
import SearchQuery.Text.Digit

/-!
# Integer numerals

An integer numeral may be padded with blanks and signed, may use the digits of any script, and may
group its digits with single underscores.  Conversions between numerals and integers are limited to
4300 digits in either direction.
-/

set_option autoImplicit false

namespace SearchQuery.Numeral

open SearchQuery.Text

/-- Why a text is no integer numeral. -/
inductive Fault where
  | malformed
  | tooLong (digits : Nat)
deriving DecidableEq

def maxDigits : Nat := 4300

/-- The blanks that may surround a numeral: all but the information separators. -/
def isPadding (c : Char) : Bool :=
  isBlank c && !(0x1C ≤ c.toNat && c.toNat ≤ 0x1F)

def unpad (s : Text) : Text :=
  ((s.dropWhile isPadding).reverse.dropWhile isPadding).reverse

/-- Whether a minus sign leads, and what follows the sign. -/
def splitSign : Text → Bool × Text
  | '-' :: rest => (true, rest)
  | '+' :: rest => (false, rest)
  | s => (false, s)

/-- The values of digits that single underscores may group. -/
def digits? : Text → Option (List Nat)
  | [] => none
  | [c] => (digitValue? c).map ([·])
  | c :: '_' :: rest => do
    let d ← digitValue? c
    let ds ← digits? rest
    return d :: ds
  | c :: rest => do
    let d ← digitValue? c
    let ds ← digits? rest
    return d :: ds

def signed (negative : Bool) (n : Nat) : Int :=
  if negative then -(n : Int) else n

/-- The number of a digit run, unless it is too long. -/
def ofDigitRun (digits : List Nat) : Except Fault Nat :=
  if digits.length > maxDigits then .error (.tooLong digits.length)
  else .ok (ofDigits 10 digits)

def readInteger (s : Text) : Except Fault Int :=
  let (negative, body) := splitSign (unpad s)
  match digits? body with
  | none => .error .malformed
  | some digits => (ofDigitRun digits).map (signed negative)

def writeInteger (n : Int) : Text :=
  match n with
  | .ofNat m => decimal m
  | .negSucc m => '-' :: decimal (m + 1)

/-- The numeral of an integer, unless it has too many digits. -/
def writeInteger? (n : Int) : Option Text :=
  if (decimal n.natAbs).length > maxDigits then none else some (writeInteger n)

/-- The complaint about a numeral of too many digits. -/
def tooLongToRead (digits : Nat) : Text :=
  "Exceeds the limit (4300 digits) for integer string conversion: value has " ++ decimal digits ++
    " digits; use sys.set_int_max_str_digits() to increase the limit"

/-- The complaint about an integer of too many digits. -/
def tooLongToWrite : Text :=
  "Exceeds the limit (4300 digits) for integer string conversion; use " ++
    "sys.set_int_max_str_digits() to increase the limit"

end SearchQuery.Numeral
