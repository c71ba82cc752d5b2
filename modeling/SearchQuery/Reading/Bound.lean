import SearchQuery.Reading.Fault

/-!
# Reading bounds

The three ways in which a bound may be spelled: a number, a duration in hours and minutes, a date.
-/

set_option autoImplicit false

namespace SearchQuery.Bound

open SearchQuery.Text

/-- An integer if the text is an integer numeral, otherwise a finite binary number. -/
def readNumber (text : Text) : Except ValueFault Bound :=
  match Numeral.readInteger text with
  | .ok n => .ok (.integer n)
  | .error _ =>
    match Binary64.read? text with
    | none => .error (.notNumber text)
    | some x => if x.isFinite then .ok (.real x) else .error (.notFinite text)

def isDigit (c : Char) : Bool :=
  (digitValue? c).isSome

/-- The leading digits and what follows them. -/
def digitRun (s : Text) : List Nat × Text :=
  ((s.takeWhile isDigit).filterMap digitValue?, s.dropWhile isDigit)

/-- Nothing, or the mark of the minutes. -/
def isMinuteMark (s : Text) : Bool :=
  s = [] || s = ['m'] || s = ['M']

/-- The digits of the hours and of the minutes, either of which may be missing but not both. -/
def durationDigits? (s : Text) : Option (List Nat × List Nat) :=
  match digitRun s with
  | ([], _) => none
  | (first, rest) =>
    if isMinuteMark rest then some ([], first)
    else
      match rest with
      | [] => none
      | mark :: rest =>
        if mark = 'h' || mark = 'H' then
          match digitRun rest with
          | ([], []) => some (first, [])
          | ([], _) => none
          | (second, rest) => if isMinuteMark rest then some (first, second) else none
        else none

/-- A text without the line feed that may end it. -/
def dropFinalNewline (s : Text) : Text :=
  if s.getLast? = some '\n' then s.dropLast else s

def ofDurationRun (digits : List Nat) : Except ValueFault Nat :=
  match Numeral.ofDigitRun digits with
  | .ok n => .ok n
  | .error (.tooLong count) => .error (.tooManyDigits count)
  | .error .malformed => .ok 0

/-- A duration in minutes: `90`, `90m`, `2h`, `1h30` or `1h30m`, in either case, perhaps followed by one
line feed. -/
def readDuration (text : Text) : Except ValueFault Bound :=
  match durationDigits? (dropFinalNewline text) with
  | none => .error (.notDuration text)
  | some (hours, minutes) => do
    let hours ← ofDurationRun hours
    let minutes ← ofDurationRun minutes
    return .integer ((hours * 60 + minutes : Nat) : Int)

def readDate (text : Text) : Except ValueFault Bound :=
  match Date.readIso? text with
  | none => .error (.notDate text)
  | some d => .ok (.date d)

end SearchQuery.Bound
