import SearchQuery.Calendar.Iso

/-!
# Moments

The points in time that a document may name: a date, a time of day, or a date with a time of day,
perhaps at an offset from universal time.
-/

set_option autoImplicit false

namespace SearchQuery

structure TimeOfDay where
  hour : Nat
  minute : Nat
  second : Nat
  microsecond : Nat
deriving DecidableEq

inductive Moment where
  | date (date : Date)
  | time (time : TimeOfDay)
  | dateTime (date : Date) (time : TimeOfDay) (offsetMinutes : Option Int)
deriving DecidableEq

open SearchQuery.Text

def Calendar.twoDigits (n : Nat) : Text :=
  padStart '0' 2 (decimal n)

/-- Hours, minutes and seconds, and the microseconds in six digits if there are any. -/
def TimeOfDay.writeIso (t : TimeOfDay) : Text :=
  let clock := Calendar.twoDigits t.hour ++ ':' :: Calendar.twoDigits t.minute ++ ':' :: Calendar.twoDigits t.second
  if t.microsecond = 0 then clock
  else clock ++ '.' :: padStart '0' 6 (decimal t.microsecond)

/-- A signed offset in hours and minutes; no offset counts as positive. -/
def Moment.writeOffset (minutes : Int) : Text :=
  let size := minutes.natAbs
  (if minutes < 0 then '-' else '+') :: Calendar.twoDigits (size / 60) ++ ':' :: Calendar.twoDigits (size % 60)

def Moment.writeIso : Moment → Text
  | .date d => d.writeIso
  | .time t => t.writeIso
  | .dateTime d t offset =>
    d.writeIso ++ 'T' :: t.writeIso ++ (offset.map writeOffset).getD []

end SearchQuery
