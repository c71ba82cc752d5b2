import SearchQuery.Document.Value
import SearchQuery.Toml.Fault

/-!
# Numbers and moments of TOML documents

Integers may be decimal, hexadecimal, octal or binary; real numbers need a fraction or an exponent.
Single underscores may stand between digits.  Dates and times are written like `1979-05-27T07:32:00Z`, and
seconds are kept to six places.
-/

set_option autoImplicit false

namespace SearchQuery.Toml

open SearchQuery.Text

/-! ## Moments -/

/-- A number of exactly so many ASCII digits. -/
def fixedNumber? (digits : Nat) (s : Text) : Option (Nat × Text) := do
  let values ← (s.take digits).mapM asciiDigit?
  if values.length = digits then return (ofDigits 10 values, s.drop digits) else none

/-- A number of two digits in a range. -/
def twoDigits? (low high : Nat) (s : Text) : Option (Nat × Text) := do
  let (n, rest) ← fixedNumber? 2 s
  if low ≤ n ∧ n ≤ high then return (n, rest) else none

def isAsciiDigit (c : Char) : Bool :=
  (asciiDigit? c).isSome

/-- The microseconds of a fraction of a second, if there is one. -/
def fraction (s : Text) : Nat × Text :=
  match s with
  | '.' :: rest =>
    match rest.takeWhile isAsciiDigit with
    | [] => (0, s)
    | digits =>
      let six := (digits.take 6 ++ List.replicate 6 '0').take 6
      (ofDigits 10 (six.filterMap asciiDigit?), rest.dropWhile isAsciiDigit)
  | _ => (0, s)

def time? (s : Text) : Option (TimeOfDay × Text) := do
  let (hour, rest) ← twoDigits? 0 23 s
  let rest ← after? ":" rest
  let (minute, rest) ← twoDigits? 0 59 rest
  let rest ← after? ":" rest
  let (second, rest) ← twoDigits? 0 59 rest
  let (microsecond, rest) := fraction rest
  return (⟨hour, minute, second, microsecond⟩, rest)

/-- An offset from universal time in minutes, if there is one. -/
def offset (s : Text) : Option Int × Text :=
  let signedOffset (sign : Int) (rest : Text) : Option (Option Int × Text) := do
    let (hours, rest) ← twoDigits? 0 23 rest
    let rest ← after? ":" rest
    let (minutes, rest) ← twoDigits? 0 59 rest
    return (some (sign * (hours * 60 + minutes : Nat)), rest)
  match s with
  | 'Z' :: rest => (some 0, rest)
  | 'z' :: rest => (some 0, rest)
  | '+' :: rest => (signedOffset 1 rest).getD (none, s)
  | '-' :: rest => (signedOffset (-1) rest).getD (none, s)
  | _ => (none, s)

/-- Year, month and day in the shape of a date, which need not be a day of the calendar. -/
def dateShape? (s : Text) : Option ((Nat × Nat × Nat) × Text) := do
  let (year, rest) ← fixedNumber? 4 s
  let rest ← after? "-" rest
  let (month, rest) ← twoDigits? 1 12 rest
  let rest ← after? "-" rest
  let (day, rest) ← twoDigits? 1 31 rest
  return ((year, month, day), rest)

/-- The time that may follow a date behind a `T` or a blank. -/
def dateTime (date : Date) (s : Text) : Moment × Text :=
  match s with
  | c :: rest =>
    if c = 'T' || c = 't' || c = ' ' then
      match time? rest with
      | none => (.date date, s)
      | some (time, rest) =>
        let (offset, rest) := offset rest
        (.dateTime date time offset, rest)
    else (.date date, s)
  | [] => (.date date, [])

/-- A moment at the start of a text, if there is one. -/
def moment? (s : Text) : Option (Except Fault (Value × Text)) :=
  match dateShape? s with
  | some ((year, month, day), rest) =>
    match Date.make? year month day with
    | none => some (complain .invalidDate s)
    | some date =>
      let (moment, rest) := dateTime date rest
      some (.ok (.moment moment, rest))
  | none => (time? s).map fun (time, rest) => .ok (.moment (.time time), rest)

/-! ## Numbers -/

/-- Digits that single underscores may divide, as far as they reach. -/
def digitRun (isDigit : Char → Bool) : Text → Text × Text
  | [] => ([], [])
  | ['_'] => ([], ['_'])
  | '_' :: c :: rest =>
    if isDigit c then ('_' :: c :: (digitRun isDigit rest).1, (digitRun isDigit rest).2)
    else ([], '_' :: c :: rest)
  | c :: rest =>
    if isDigit c then (c :: (digitRun isDigit rest).1, (digitRun isDigit rest).2)
    else ([], c :: rest)

/-- At least one digit, and further ones that single underscores may divide. -/
def digits? (isDigit : Char → Bool) : Text → Option (Text × Text)
  | [] => none
  | c :: rest =>
    if isDigit c then some (c :: (digitRun isDigit rest).1, (digitRun isDigit rest).2) else none

/-- The number of a digit run in a base. -/
def runValue (base : Nat) (run : Text) : Nat :=
  ofDigits base (run.filterMap hexDigit?)

def isDigitOf (base : Nat) (c : Char) : Bool :=
  match hexDigit? c with
  | some d => d < base
  | none => false

/-- A hexadecimal, octal or binary integer. -/
def basedInteger? : Text → Option (Value × Text)
  | '0' :: mark :: rest => do
    let base ← [('x', 16), ('o', 8), ('b', 2)].lookup mark
    let (run, rest) ← digits? (isDigitOf base) rest
    return (.integer (runValue base run), rest)
  | _ => none

/-- The digits before a fraction or an exponent: a zero, or digits of which the first is none. -/
def wholePart? : Text → Option (Text × Text)
  | '0' :: rest => some (['0'], rest)
  | s => digits? isAsciiDigit s

def fractionPart (s : Text) : Text × Text :=
  match s with
  | '.' :: rest =>
    match digits? isAsciiDigit rest with
    | some (run, rest) => ('.' :: run, rest)
    | none => ([], s)
  | _ => ([], s)

def signPart : Text → Text × Text
  | '+' :: rest => (['+'], rest)
  | '-' :: rest => (['-'], rest)
  | s => ([], s)

def exponentPart (s : Text) : Text × Text :=
  match s with
  | mark :: rest =>
    if Binary64.isExponentMark mark then
      let (sign, digits) := signPart rest
      match digits? isAsciiDigit digits with
      | some (run, rest) => (mark :: sign ++ run, rest)
      | none => ([], s)
    else ([], s)
  | [] => ([], [])

/-- A decimal number at the start of a text, if there is one. -/
def decimal? (s : Text) : Option (Except Fault (Value × Text)) := do
  let (sign, unsigned) := signPart s
  let (whole, rest) ← wholePart? unsigned
  let (fraction, rest) := fractionPart rest
  let (exponent, rest) := exponentPart rest
  if fraction.isEmpty && exponent.isEmpty then
    return match Numeral.readInteger (sign ++ whole) with
      | .ok n => .ok (.integer n, rest)
      | .error (.tooLong digits) => .error (.tooManyDigits digits)
      | .error .malformed => complain .invalidValue s
  else
    return match Binary64.read? (sign ++ whole ++ fraction ++ exponent) with
      | some x => .ok (.real x, rest)
      | none => complain .invalidValue s

/-- The infinities and the undefined number. -/
def special? (s : Text) : Option (Value × Text) :=
  let (sign, unsigned) := signPart s
  let negative := sign = ['-']
  ((after? "inf" unsigned).map fun rest => (.real (.infinite negative), rest)) <|>
    (after? "nan" unsigned).map fun rest => (.real .nan, rest)

/-- A truth value, a moment or a number at the start of a text. -/
def scalar (s : Text) : Except Fault (Value × Text) :=
  let plain (found : Option (Value × Text)) : Option (Except Fault (Value × Text)) := found.map .ok
  let truth (word : Text) (b : Bool) : Option (Except Fault (Value × Text)) :=
    (after? word s).map fun rest => .ok (.bool b, rest)
  (truth "true" true <|> truth "false" false <|> moment? s <|> plain (basedInteger? s) <|>
    decimal? s <|> plain (special? s)).getD (complain .invalidValue s)

end SearchQuery.Toml
