import SearchQuery.Proofs.Segment.Split
import SearchQuery.Proofs.Selector.Spelling

/-!
# Quotations

Any text at all can be typed as a value: between quotes, with a backslash before every quote and every
backslash in it.  Behind a selector and a separator it is the value of that selector, alone it is the value of
a segment without a selector.  Where nothing is reserved in it, the quotes may be left out behind a selector.
-/

set_option autoImplicit false

namespace SearchQuery

open SearchQuery.Text

namespace Piece

/-- The text with a backslash before every quote and every backslash. -/
def escaped (s : Text) : Text :=
  s.flatMap fun c => if c = '\\' ∨ c = '"' then ['\\', c] else [c]

theorem unescape_of_not_mem {s : Text} (ordinary : '\\' ∉ s) : unescape s = s := by
  induction s with
  | nil => rfl
  | cons c rest ih =>
    obtain ⟨first, later⟩ := not_or.1 (List.mem_cons.not.1 ordinary)
    rw [unescape_plain (Ne.symm first), ih later]

theorem run_of_typeable {token : Text} (plain : ∀ c ∈ token, Selector.isReserved c = false) :
    Run endsBare token ∧ '\\' ∉ token := by
  induction token with
  | nil => exact ⟨.nil, by simp⟩
  | cons c rest ih =>
    obtain ⟨first, later⟩ := List.forall_mem_cons.1 plain
    obtain ⟨run, ordinary⟩ := ih later
    simp only [Selector.isReserved, Bool.or_eq_false_iff, decide_eq_false_iff_not] at first
    obtain ⟨⟨⟨solid, noSeparator⟩, noQuote⟩, noBackslash⟩ := first
    refine ⟨run.plain noBackslash ?_, ?_⟩
    · simp [endsBare, solid, noSeparator, noQuote]
    · simp [ordinary, Ne.symm noBackslash]

end Piece

namespace Segment

open SearchQuery.Selector

/-- The pieces of a selector in front of a value without quotes. -/
def barePieces (token value : Text) : List Piece :=
  [.bare token, .separator, .bare value]

theorem lexed_barePieces {token value : Text} (nonempty : token ≠ []) (run : Piece.Run Piece.endsBare token)
    (valueNonempty : value ≠ []) (valueRun : Piece.Run Piece.endsBare value) :
    Piece.Lexed (barePieces token value) := by
  refine Piece.lexed_cons_iff.2 ⟨⟨nonempty, run⟩, ?_, ?_⟩
  · intro c isHead
    cases isHead
    rfl
  · refine Piece.lexed_cons_iff.2 ⟨trivial, trivial, ?_⟩
    exact Piece.lexed_cons_iff.2 ⟨⟨valueNonempty, valueRun⟩, nofun, Piece.lexed_nil⟩

theorem flatMap_raw_barePieces (token value : Text) :
    (barePieces token value).flatMap Piece.raw = token ++ ':' :: value := by
  simp [barePieces, Piece.raw]

theorem divide_barePieces {token value : Text} (nonempty : token ≠ []) (ordinary : '\\' ∉ token)
    (valueOrdinary : '\\' ∉ value) : Piece.divide (barePieces token value) = (some token, value) := by
  have undivided : .separator ∉ [Piece.bare token] := by simp
  refine (Piece.divide_append_separator undivided [.bare value]).trans ?_
  simp [Piece.contents, Piece.content, Piece.unescape_of_not_mem ordinary,
    Piece.unescape_of_not_mem valueOrdinary, nonempty]

theorem isBlank_of_unreserved {c : Char} (unreserved : isReserved c = false) : isBlank c = false := by
  simp only [isReserved, Bool.or_eq_false_iff] at unreserved
  exact unreserved.1.1.1

/-- A value without reserved characters needs no quotes. -/
theorem split_selected_bare {token value : Text} (typeable : Typeable token) (nonempty : value ≠ [])
    (plain : ∀ c ∈ value, isReserved c = false) :
    split (token ++ ':' :: value) = .ok [⟨token ++ ':' :: value, some token, value, false⟩] := by
  obtain ⟨run, ordinary⟩ := Piece.run_of_typeable typeable.plain
  obtain ⟨valueRun, valueOrdinary⟩ := Piece.run_of_typeable plain
  have noBlank : ∀ c ∈ token ++ ':' :: value, isBlank c = false := by
    refine List.forall_mem_append.2 ⟨?_, List.forall_mem_cons.2 ⟨by decide, ?_⟩⟩
    · exact fun c member => isBlank_of_unreserved (typeable.plain c member)
    · exact fun c member => isBlank_of_unreserved (plain c member)
  have segmented := split_flatMap_raw (lexed_barePieces typeable.nonempty run nonempty valueRun)
    (by simp [barePieces]) (flatMap_raw_barePieces token value ▸ trimmed_of_noBlank noBlank)
  have oneStretch : Piece.stretches (barePieces token value) = [barePieces token value] := rfl
  rw [flatMap_raw_barePieces, oneStretch, List.map_singleton, ofPieces, barePieces,
    Piece.takeNegation_of_head_ne typeable.noDash, ← barePieces] at segmented
  simpa only [divide_barePieces typeable.nonempty ordinary valueOrdinary, flatMap_raw_barePieces] using segmented

end Segment

end SearchQuery
