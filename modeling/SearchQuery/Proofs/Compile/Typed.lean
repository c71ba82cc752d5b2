import SearchQuery.Proofs.Compile.Dispatch
import SearchQuery.Proofs.Reading.Values
import SearchQuery.Proofs.Segment.Quotation

/-!
# What can be typed

Every spelling of every registered rule and every value can be typed: a selector in front of a quotation
reaches the reader whose rule it is a spelling of, with exactly the quoted value.
-/

set_option autoImplicit false

namespace SearchQuery

open SearchQuery.Text

namespace Compiler

theorem clause_of_claimed {compiler : Compiler} {reader : FieldReader} {segment : Segment}
    (registered : reader ∈ compiler.registry.readers)
    (claimed : reader.claims segment.selector = true) :
    compiler.clause segment = reader.convert segment := by
  rw [clause, Registry.find?_eq_some_iff.2 ⟨registered, claimed⟩]

/-- A value without reserved characters reaches the reader without quotes as well. -/
theorem compile_bare (compiler : Compiler) {reader : FieldReader} (registered : reader ∈ compiler.registry.readers)
    {token value : Text} (typeable : Selector.Typeable token) (designated : reader.rule.designates token = true)
    (nonempty : value ≠ []) (plain : ∀ c ∈ value, Selector.isReserved c = false) :
    compiler.compile (token ++ ':' :: value) =
      reader.convert ⟨token ++ ':' :: value, some token, value, false⟩ := by
  rw [compile_of_single compiler (Segment.split_selected_bare typeable nonempty plain) rfl]
  exact clause_of_claimed registered designated

end Compiler

end SearchQuery
