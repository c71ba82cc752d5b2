import SearchQuery.Calendar.Date

/-!
# ISO 8601 dates

A date is written `YYYY-MM-DD`.  It may be read from that form, from a week and a weekday
(`YYYY-Www-D`, the weekday being Monday when left out), and from both forms without dashes.  A full
form without dashes is also read when it is followed by exactly two bytes of other text, which are
ignored.
-/

set_option autoImplicit false

namespace SearchQuery.Date

open SearchQuery.Text

/-- Natural numbers in exactly as many ASCII digits as the list has characters. -/
def asciiNumber? (s : Text) : Option Nat :=
  (s.mapM asciiDigit?).map (ofDigits 10)

/-- Whether nothing, or exactly two bytes of encoded text, follow a date without dashes. -/
def isIgnorable (s : Text) : Bool :=
  s.isEmpty || (String.ofList s).utf8ByteSize == 2

def readMonthDay? (year : Nat) (month day : Text) : Option Date := do
  make? year (← asciiNumber? month) (← asciiNumber? day)

def readWeek? (year : Nat) (week weekday : Text) : Option Date := do
  ofWeek? year (← asciiNumber? week) (← asciiNumber? weekday)

/-- What may follow the four digits of the year. -/
def readInYear? (year : Nat) : Text → Option Date
  | ['-', 'W', w, v] => readWeek? year [w, v] ['1']
  | ['-', 'W', w, v, '-', d] => readWeek? year [w, v] [d]
  | ['-', m, n, '-', d, e] => readMonthDay? year [m, n] [d, e]
  | ['W', w, v] => readWeek? year [w, v] ['1']
  | 'W' :: w :: v :: d :: rest => if isIgnorable rest then readWeek? year [w, v] [d] else none
  | m :: n :: d :: e :: rest => if isIgnorable rest then readMonthDay? year [m, n] [d, e] else none
  | _ => none

def readIso? : Text → Option Date
  | a :: b :: c :: d :: rest => do readInYear? (← asciiNumber? [a, b, c, d]) rest
  | _ => none

def writeIso (d : Date) : Text :=
  padStart '0' 4 (decimal d.year) ++ '-' :: padStart '0' 2 (decimal d.month) ++
    '-' :: padStart '0' 2 (decimal d.day)

end SearchQuery.Date
