import SearchQuery.Proofs.Compile.Clauses
import SearchQuery.Proofs.Segment.Split

/-!
# Search strings side by side

Two search strings with blanks between them compile to the combination of what each of them requires and
excludes.  If one of them has no query, neither have both together, and the complaint is the one about the
first that fails.
-/

set_option autoImplicit false

namespace SearchQuery

open SearchQuery.Text

namespace Compiler

/-- Two groups of clauses have at least two members, so that they are always combined. -/
theorem gather_append {first second : List (Bool × Query)} (firstNonempty : first ≠ [])
    (secondNonempty : second ≠ []) :
    gather (first ++ second) =
      .ok (.bool (kept first ++ kept second) (negated first ++ negated second) []) := by
  rw [← kept_append, ← negated_append]
  apply gather_eq_bool
  · exact List.append_ne_nil_of_left_ne_nil firstNonempty second
  · intro query equal
    have size := congrArg List.length equal
    have firstPositive := List.length_pos_iff.2 firstNonempty
    have secondPositive := List.length_pos_iff.2 secondNonempty
    simp only [List.length_append, List.length_cons, List.length_nil] at size
    omega

theorem compileSegments_append {compiler : Compiler} {first second : List Segment}
    {firstClauses secondClauses : List (Bool × Query)} (firstNonempty : firstClauses ≠ [])
    (secondNonempty : secondClauses ≠ [])
    (firstMarked : first.mapM compiler.markedClause = .ok firstClauses)
    (secondMarked : second.mapM compiler.markedClause = .ok secondClauses) :
    compiler.compileSegments (first ++ second) =
      .ok (.bool (kept firstClauses ++ kept secondClauses)
        (negated firstClauses ++ negated secondClauses) []) := by
  rw [compileSegments_eq, List.mapM_append, firstMarked, secondMarked]
  change (gather (firstClauses ++ secondClauses)).mapError CompileError.fault = _
  rw [gather_append firstNonempty secondNonempty]
  rfl

theorem compileSegments_append_of_error_left {compiler : Compiler} {first : List Segment}
    {e : CompileError} (failure : first.mapM compiler.markedClause = .error e)
    (second : List Segment) : compiler.compileSegments (first ++ second) = .error e := by
  apply compileSegments_of_error
  rw [List.mapM_append, failure]
  rfl

theorem compileSegments_append_of_error_right {compiler : Compiler} {first second : List Segment}
    {clauses : List (Bool × Query)} {e : CompileError}
    (success : first.mapM compiler.markedClause = .ok clauses)
    (failure : second.mapM compiler.markedClause = .error e) :
    compiler.compileSegments (first ++ second) = .error e := by
  apply compileSegments_of_error
  rw [List.mapM_append, success, failure]
  rfl

/-- Two search strings with blanks between them: the segments of both in order, the complaint about the
first that fails, or everything that either of them requires and excludes. -/
theorem compile_append (compiler : Compiler) {left right blanks : Text} {first second : List Segment}
    (leftSolid : allBlank left = false) (rightSolid : allBlank right = false)
    (nonempty : blanks ≠ []) (blank : allBlank blanks = true)
    (splitLeft : Segment.split left = .ok first) (splitRight : Segment.split right = .ok second) :
    Segment.split (left ++ blanks ++ right) = .ok (first ++ second) ∧
      (∀ e, compiler.compile left = .error e →
        compiler.compile (left ++ blanks ++ right) = .error e) ∧
      (∀ query e, compiler.compile left = .ok query → compiler.compile right = .error e →
        compiler.compile (left ++ blanks ++ right) = .error e) ∧
      ∀ leftQuery rightQuery, compiler.compile left = .ok leftQuery →
        compiler.compile right = .ok rightQuery →
        compiler.compile (left ++ blanks ++ right) =
          .ok (.bool (leftQuery.required ++ rightQuery.required)
            (leftQuery.excluded ++ rightQuery.excluded) []) := by
  have firstNonempty := Segment.split_ne_nil leftSolid splitLeft
  have secondNonempty := Segment.split_ne_nil rightSolid splitRight
  have splitBoth :=
    Segment.split_append leftSolid rightSolid nonempty blank splitLeft splitRight
  rw [compiler.compile_of_split splitLeft firstNonempty,
    compiler.compile_of_split splitRight secondNonempty,
    compiler.compile_of_split splitBoth (List.append_ne_nil_of_left_ne_nil firstNonempty second)]
  refine ⟨splitBoth, ?_⟩
  cases firstMarked : first.mapM compiler.markedClause with
  | error e =>
    rw [compileSegments_of_error firstMarked, compileSegments_append_of_error_left firstMarked]
    exact ⟨fun _ same => same, nofun, nofun⟩
  | ok firstClauses =>
    obtain ⟨firstClausesNonempty, leftQuery, leftCompiled, leftRequired, leftExcluded⟩ :=
      compileSegments_of_ok firstNonempty firstMarked
    rw [leftCompiled]
    cases secondMarked : second.mapM compiler.markedClause with
    | error e =>
      rw [compileSegments_of_error secondMarked,
        compileSegments_append_of_error_right firstMarked secondMarked]
      exact ⟨nofun, fun _ _ _ same => same, nofun⟩
    | ok secondClauses =>
      obtain ⟨secondClausesNonempty, rightQuery, rightCompiled, rightRequired, rightExcluded⟩ :=
        compileSegments_of_ok secondNonempty secondMarked
      rw [rightCompiled, compileSegments_append firstClausesNonempty secondClausesNonempty
        firstMarked secondMarked, ← leftRequired, ← rightRequired, ← leftExcluded, ← rightExcluded]
      refine ⟨nofun, nofun, ?_⟩
      intro _ _ sameLeft sameRight
      cases sameLeft
      cases sameRight
      rfl

theorem compile_append_channel_and_phrase :
    let compiler : Compiler :=
      ⟨⟨[⟨.channel, .ofFolded "c" [] ['!'] rfl rfl, .text .all⟩], rfl⟩, [.title],
        by decide, by decide⟩
    let left : Text := "-!:arte ".toList
    let right : Text := "\"heute show\"".toList
    Segment.split left = .ok [⟨"-!:arte".toList, some ['!'], "arte".toList, true⟩] ∧
      Segment.split right = .ok [⟨right, none, "heute show".toList, false⟩] ∧
      compiler.compile (left ++ ['\t'] ++ right) =
        .ok (.bool [.text ⟨[.title], "heute show".toList, .all⟩]
          [.text ⟨[.channel], "arte".toList, .all⟩] []) := by
  intro compiler left right
  have splitLeft : Segment.split left = .ok [⟨"-!:arte".toList, some ['!'], "arte".toList, true⟩] := by
    decide +kernel
  have splitRight : Segment.split right = .ok [⟨right, none, "heute show".toList, false⟩] := by
    decide +kernel
  refine ⟨splitLeft, splitRight, ?_⟩
  have joined := compile_append compiler (by decide) (by decide) (by simp)
    (by decide : allBlank ['\t'] = true) splitLeft splitRight
  apply joined.2.2.2 (.bool [] [.text ⟨[.channel], "arte".toList, .all⟩] [])
    (.text ⟨[.title], "heute show".toList, .all⟩)
  · rw [compile_of_split compiler splitLeft (by simp)]
    rfl
  · rw [compile_of_split compiler splitRight (by simp)]
    rfl

end Compiler

end SearchQuery
