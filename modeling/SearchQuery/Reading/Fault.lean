import SearchQuery.Query.Basic

/-!
# Faults of values

Why the value of a segment cannot be read.
-/

set_option autoImplicit false

namespace SearchQuery

inductive ValueFault where
  | textRequired
  | valueRequired
  | boundRequired
  | notNumber (text : Text)
  | notFinite (text : Text)
  | notDuration (text : Text)
  | notDate (text : Text)
  | tooManyDigits (digits : Nat)
  | invalid (fault : QueryFault)
deriving DecidableEq

def ValueFault.reason : ValueFault → Text
  | .textRequired => "a search text is required"
  | .valueRequired => "a value is required"
  | .boundRequired => "a range needs at least one bound"
  | .notNumber text => "'" ++ text ++ "' is not a number"
  | .notFinite text => "'" ++ text ++ "' is not a finite number"
  | .notDuration text => "'" ++ text ++ "' is not a duration"
  | .notDate text => "'" ++ text ++ "' is not a date (expected YYYY-MM-DD)"
  | .tooManyDigits digits => Numeral.tooLongToRead digits
  | .invalid fault => fault.reason

end SearchQuery
