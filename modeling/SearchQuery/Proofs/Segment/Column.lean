import SearchQuery.Proofs.Segment.Fault

/-!
# The column of a fault

A fault stands in one place of the search string: at a quote behind which a scan never leaves the quotes again, or at a
backslash behind which only blanks stand.  The column that is reported counts the blanks before the string, and then
starts anew behind every line feed.  So it is the place of the fault exactly if no line feed stands between the
first solid character and the fault; otherwise it is a place before the fault.
-/

set_option autoImplicit false

namespace SearchQuery

open SearchQuery.Text

/-! ## The place of a fault -/

/-- The character right behind `before` is at fault: a quote outside quotes and, however far a scan goes on from it,
it stays inside quotes, or a backslash outside quotes and only blanks behind it. -/
inductive Segment.OffendsBehind (query before : Text) : SyntaxFault → Prop
  | quote {after : Text} (spelled : query = before ++ '"' :: after) (outside : Cursor.after before = .start)
      (unclosed : ∀ more, more <+: after → (Cursor.after (before ++ '"' :: more)).quoted = true) :
      OffendsBehind query before .unterminatedQuote
  | backslash {after : Text} (spelled : query = before ++ '\\' :: after) (outside : Cursor.after before = .start)
      (blank : allBlank after = true) : OffendsBehind query before .danglingEscape

namespace Piece

/-- A span that is closed stays closed if the text goes on. -/
theorem closeQuote?_append {s body rest : Text} (closed : closeQuote? s = some (body, rest)) (more : Text) :
    closeQuote? (s ++ more) = some (body, rest ++ more) := by
  obtain ⟨rfl, run⟩ := run_of_closeQuote? closed
  rw [List.append_assoc, List.cons_append]
  exact closeQuote?_append_quote run (rest ++ more)

theorem closeQuote?_eq_none_of_isPrefix {s more : Text} (unclosed : closeQuote? s = none) (begins : more <+: s) :
    closeQuote? more = none := by
  obtain ⟨rest, rfl⟩ := begins
  cases outcome : closeQuote? more with
  | none => rfl
  | some cut =>
    rw [closeQuote?_append outcome rest] at unclosed
    cases unclosed

end Piece

namespace Cursor

theorem after_append_quote {before : Text} (outside : after before = .start) (more : Text) :
    after (before ++ '"' :: more) = more.foldl next ⟨true, false⟩ := by
  rw [after_append, outside]
  rfl

/-- Behind a quote that nothing closes, a scan stays inside quotes, also among blanks behind the text. -/
theorem quoted_of_unclosed {before rest blanks : Text} (outside : after before = .start)
    (unclosed : Piece.closeQuote? rest = none) (blank : allBlank blanks = true) {more : Text}
    (begins : more <+: rest ++ blanks) : (after (before ++ '"' :: more)).quoted = true := by
  have inside : ∀ more, more <+: rest → (after (before ++ '"' :: more)).quoted = true := by
    intro more begins
    rw [after_append_quote outside]
    exact Piece.quoted_of_closeQuote?_eq_none (Piece.closeQuote?_eq_none_of_isPrefix unclosed begins)
  obtain ⟨behind, parted⟩ := begins
  rcases List.append_eq_append_iff.1 parted with ⟨between, rfl, -⟩ | ⟨passed, rfl, rfl⟩
  · exact inside more (List.prefix_append more between)
  · by_cases none : passed = []
    · rw [none, List.append_nil]
      exact inside rest (List.prefix_refl rest)
    · have passedBlank : allBlank passed = true := (allBlank_append.1 blank).1
      rw [← List.cons_append, ← List.append_assoc, after_append_blanks passedBlank none]
      exact inside rest (List.prefix_refl rest)

end Cursor

namespace Segment

theorem OffendsBehind.length_lt {query before : Text} {fault : SyntaxFault}
    (offends : OffendsBehind query before fault) : before.length < query.length := by
  cases offends with
  | quote spelled _ _ => simp [spelled]
  | backslash spelled _ _ => simp [spelled]

theorem OffendsBehind.isPrefix {query before : Text} {fault : SyntaxFault}
    (offends : OffendsBehind query before fault) : before <+: query := by
  cases offends with
  | quote spelled _ _ => exact ⟨_, spelled.symm⟩
  | backslash spelled _ _ => exact ⟨_, spelled.symm⟩

/-- Of two places of a character in a text, the earlier one has the later one in what stands behind it. -/
theorem exists_between {c : Char} {before after other otherAfter : Text}
    (same : before ++ c :: after = other ++ c :: otherAfter) (longer : before.length < other.length) :
    ∃ more, other = before ++ c :: more ∧ after = more ++ c :: otherAfter := by
  rcases List.append_eq_append_iff.1 same with ⟨between, rfl, parted⟩ | ⟨between, rfl, -⟩
  · cases between with
    | nil => simp at longer
    | cons d more =>
      obtain ⟨rfl, rest⟩ := List.cons.inj parted
      exact ⟨more, rfl, rest⟩
  · rw [List.length_append] at longer
    omega

/-- No fault of the same kind stands further behind. -/
theorem OffendsBehind.length_le {query before other : Text} {fault : SyntaxFault}
    (offends : OffendsBehind query before fault) (alsoOffends : OffendsBehind query other fault) :
    other.length ≤ before.length := by
  by_contra notLonger
  have longer : before.length < other.length := by omega
  cases offends with
  | quote spelled _ unclosed =>
    cases alsoOffends with
    | quote alsoSpelled alsoOutside _ =>
      obtain ⟨more, rfl, rest⟩ := exists_between (spelled.symm.trans alsoSpelled) longer
      have quoted := unclosed more ⟨_, rest.symm⟩
      rw [alsoOutside] at quoted
      cases quoted
  | backslash spelled _ blank =>
    cases alsoOffends with
    | backslash alsoSpelled _ _ =>
      obtain ⟨more, -, rest⟩ := exists_between (spelled.symm.trans alsoSpelled) longer
      have backslashBlank := allBlank_iff.1 blank '\\' (by simp [rest])
      revert backslashBlank
      decide

theorem OffendsBehind.unique {query before other : Text} {fault : SyntaxFault}
    (offends : OffendsBehind query before fault) (alsoOffends : OffendsBehind query other fault) :
    other = before := by
  have shorter := offends.length_le alsoOffends
  have longer := alsoOffends.length_le offends
  have begins : other <+: before :=
    List.prefix_of_prefix_length_le alsoOffends.isPrefix offends.isPrefix shorter
  exact begins.eq_of_length (by omega)

/-! ## Columns -/

theorem columnAfter_le (before : Text) : columnAfter before ≤ before.length + 1 := by
  have shorter := (List.takeWhile_sublist (l := before.reverse) (· ≠ '\n')).length_le
  rw [List.length_reverse] at shorter
  rw [columnAfter]
  omega

theorem columnAfter_eq_iff (before : Text) : columnAfter before = before.length + 1 ↔ '\n' ∉ before := by
  have sameLengths : before.reverse.length = before.length := List.length_reverse
  have whole : columnAfter before = before.length + 1 ↔
      before.reverse.takeWhile (· ≠ '\n') = before.reverse := by
    rw [columnAfter, Nat.add_right_cancel_iff, ← sameLengths]
    constructor
    · intro sameLength
      exact (List.takeWhile_prefix _).eq_of_length sameLength
    · intro same
      rw [same]
  rw [whole, List.takeWhile_eq_self_iff]
  constructor
  · intro noLineFeed member
    have differs := noLineFeed '\n' (List.mem_reverse.2 member)
    simp at differs
  · intro absent c member
    refine decide_eq_true ?_
    rintro rfl
    exact absent (List.mem_reverse.1 member)

/-- What splitting says about a fault: the blanks before the search string, the part of it that could be cut, and the
rest from the fault on. -/
theorem exists_of_split_eq_error {query : Text} {e : SyntaxError} (failure : split query = .error e) :
    ∃ lead before rest blanks, allBlank lead = true ∧ allBlank blanks = true ∧
      query = lead ++ (before ++ rest) ++ blanks ∧ trim query = before ++ rest ∧
      Cursor.after before = .start ∧ Piece.Offends e.fault rest ∧
      e.column = lead.length + columnAfter before := by
  have led : query.takeWhile isBlank ++ trimStart query = query := List.takeWhile_append_dropWhile
  have trailed : trim query ++ (trimStart query).rtakeWhile isBlank = trimStart query := by
    rw [trim, trimEnd_eq_rdropWhile, List.rdropWhile_append_rtakeWhile]
  rw [split] at failure
  split at failure
  next => cases failure
  next =>
    split at failure
    next fault rest stopped =>
      cases failure
      obtain ⟨pieces, formed, spelled, offends⟩ := Piece.exists_of_cut_eq_error stopped
      have passed : (trim query).take ((trim query).length - rest.length) = pieces.flatMap Piece.raw := by
        rw [spelled]
        simp
      have indent : query.length - (trimStart query).length = (query.takeWhile isBlank).length := by
        have lengths := congrArg List.length led
        rw [List.length_append] at lengths
        omega
      refine ⟨query.takeWhile isBlank, pieces.flatMap Piece.raw, rest, (trimStart query).rtakeWhile isBlank,
        List.all_takeWhile, ?_, ?_, spelled, Piece.after_flatMap_raw formed, offends, ?_⟩
      · exact allBlank_iff.2 fun c member => List.mem_rtakeWhile_imp member
      · rw [← spelled, List.append_assoc, trailed, led]
      · rw [passed, indent, Nat.add_comm]
    next => cases failure

/-- The fault stands behind what could be cut. -/
theorem offendsBehind_of_offends {fault : SyntaxFault} {lead before rest blanks : Text}
    (leadBlank : allBlank lead = true) (blank : allBlank blanks = true) (outside : Cursor.after before = .start)
    (offends : Piece.Offends fault rest) :
    OffendsBehind (lead ++ (before ++ rest) ++ blanks) (lead ++ before) fault := by
  have outsideLed : Cursor.after (lead ++ before) = .start :=
    (Cursor.after_blanks_append leadBlank before).trans outside
  cases offends with
  | @quote rest unclosed =>
    have spelled : lead ++ (before ++ '"' :: rest) ++ blanks = lead ++ before ++ '"' :: (rest ++ blanks) := by
      simp
    refine .quote spelled outsideLed ?_
    intro more begins
    exact Cursor.quoted_of_unclosed outsideLed unclosed blank begins
  | backslash =>
    have spelled : lead ++ (before ++ ['\\']) ++ blanks = lead ++ before ++ '\\' :: blanks := by
      simp
    exact .backslash spelled outsideLed blank

/-- A fault stands in one place of the search string.  Its column is a place in the search string as well: the one of
the fault exactly if no line feed stands between the first solid character and the fault. -/
theorem column_of_fault {query : Text} {e : SyntaxError} (failure : split query = .error e) :
    1 ≤ e.column ∧ e.column ≤ query.length ∧
      ∃ before, OffendsBehind query before e.fault ∧
        (∀ other, OffendsBehind query other e.fault → other = before) ∧
        e.column = (before.takeWhile isBlank).length + columnAfter (trimStart before) ∧
        (e.column = before.length + 1 ↔ '\n' ∉ trimStart before) := by
  obtain ⟨lead, before, rest, blanks, leadBlank, blank, spelled, trimmed, outside, offends, column⟩ :=
    exists_of_split_eq_error failure
  have place : OffendsBehind query (lead ++ before) e.fault := by
    rw [spelled]
    exact offendsBehind_of_offends leadBlank blank outside offends
  -- what could be cut begins as the trimmed string does
  have solid : ∀ c ∈ before.head?, isBlank c = false := by
    intro c isHead
    refine (trimmed_trim query).head c ?_
    rw [trimmed, List.head?_append, Option.mem_def.1 isHead]
    rfl
  have start : trimStart (lead ++ before) = before := by
    rw [trimStart_append leadBlank, trimStart_eq_self solid]
  have indent : (lead ++ before).takeWhile isBlank = lead := by
    have parted := List.takeWhile_append_dropWhile (p := isBlank) (l := lead ++ before)
    rw [← trimStart, start] at parted
    exact List.append_cancel_right parted
  have inLine := columnAfter_le before
  have inQuery := place.length_lt
  rw [List.length_append] at inQuery
  refine ⟨by rw [column, columnAfter]; omega, by omega, lead ++ before, place, fun other => place.unique, ?_, ?_⟩
  · rw [indent, start, column]
  · rw [start, ← columnAfter_eq_iff, column, List.length_append]
    omega

/-- A line feed before the first solid character, an escaped quote and a closed span are all accounted for. -/
theorem column_of_fault_behind_span :
    let query : Text := "\n c:\\\"\"x y\" \"z"
    ∃ e, split query = .error e ∧ e.column = 13 ∧ e.fault = .unterminatedQuote ∧ 1 ≤ e.column ∧
      e.column ≤ query.length ∧
      ∃ before, OffendsBehind query before e.fault ∧
        (∀ other, OffendsBehind query other e.fault → other = before) ∧
        e.column = (before.takeWhile isBlank).length + columnAfter (trimStart before) ∧
        (e.column = before.length + 1 ↔ '\n' ∉ trimStart before) := by
  intro query
  have failure : split query = .error ⟨query, .unterminatedQuote, 13⟩ := by decide +kernel
  exact ⟨_, failure, rfl, rfl, column_of_fault failure⟩

/-- The column need not be that of the fault: the blanks before the first line count in although the fault stands in
the second one. -/
theorem not_column_points_at_fault :
    ¬∀ query e, split query = .error e → OffendsBehind query (query.take (e.column - 1)) e.fault := by
  intro claimed
  have failure : split "  a\n\"b".toList = .error ⟨"  a\n\"b".toList, .unterminatedQuote, 3⟩ := by
    decide +kernel
  cases claimed _ _ failure with
  | quote spelled _ _ => cases spelled

end Segment

end SearchQuery
