import SearchQuery.Text.Basic
import SearchQuery.Text.WordTable

/-!
# Word characters
-/

set_option autoImplicit false

namespace SearchQuery.Text

/-- Letters, digits, numerals and the underscore. -/
def isWord (c : Char) : Bool :=
  within wordRanges c

end SearchQuery.Text
