import SearchQuery.Proofs.Segment.Scan

/-!
# Where splitting fails

Cutting stops at a quote that nothing closes or at a backslash with nothing behind it, and everything before
that place is well-formed pieces.  So cutting fails exactly where a scan from left to right ends inside quotes
or behind a backslash.  A search string loses the blanks at its end before it is cut, also the one that a
backslash stands before; a scan of the string as it was typed does not see that fault.
-/

set_option autoImplicit false

namespace SearchQuery

open SearchQuery.Text

namespace Cursor

/-- Where a scan stands at the end of a text. -/
def after (s : Text) : Cursor :=
  s.foldl next start

/-- What is wrong with a text at the end of which a scan stands here. -/
def fault? (cursor : Cursor) : Option SyntaxFault :=
  if cursor.quoted then some .unterminatedQuote
  else if cursor.escaped then some .danglingEscape
  else none

theorem fault?_eq_unterminatedQuote_iff {cursor : Cursor} :
    cursor.fault? = some .unterminatedQuote ↔ cursor.quoted = true := by
  obtain ⟨quoted, escaped⟩ := cursor
  cases quoted <;> cases escaped <;> simp [fault?]

theorem fault?_eq_danglingEscape_iff {cursor : Cursor} :
    cursor.fault? = some .danglingEscape ↔ cursor = ⟨false, true⟩ := by
  obtain ⟨quoted, escaped⟩ := cursor
  cases quoted <;> cases escaped <;> simp [fault?]

theorem after_append (s t : Text) : after (s ++ t) = t.foldl next (after s) :=
  List.foldl_append

theorem foldl_next_blanks {blanks : Text} (blank : allBlank blanks = true) (quoted : Bool) :
    blanks.foldl next ⟨quoted, false⟩ = ⟨quoted, false⟩ := by
  induction blanks with
  | nil => rfl
  | cons c blanks ih =>
    obtain ⟨first, later⟩ := List.forall_mem_cons.1 (allBlank_iff.1 blank)
    have ordinary : c ≠ '\\' := Piece.ne_of_differ first (by decide)
    have noQuote : c ≠ '"' := Piece.ne_of_differ first (by decide)
    rw [List.foldl_cons, next_plain ordinary noQuote, ih (allBlank_iff.2 later)]

theorem after_blanks_append {lead : Text} (blank : allBlank lead = true) (s : Text) :
    after (lead ++ s) = after s := by
  have stays : after lead = start := foldl_next_blanks blank false
  rw [after_append, stays, after]

/-- Blanks at the end leave the quotes as they are and use up a pending backslash. -/
theorem after_append_blanks {blanks : Text} (blank : allBlank blanks = true) (nonempty : blanks ≠ [])
    (s : Text) : after (s ++ blanks) = ⟨(after s).quoted, false⟩ := by
  rw [after_append]
  obtain ⟨quoted, escaped⟩ := after s
  cases escaped with
  | false => exact foldl_next_blanks blank quoted
  | true =>
    obtain ⟨c, blanks, rfl⟩ := List.exists_cons_of_ne_nil nonempty
    have later := (List.forall_mem_cons.1 (allBlank_iff.1 blank)).2
    rw [List.foldl_cons, next_escaped]
    exact foldl_next_blanks (allBlank_iff.2 later) quoted

theorem quoted_after_trim (s : Text) : (after (trim s)).quoted = (after s).quoted := by
  obtain ⟨lead, tail, leadBlank, tailBlank, spelled⟩ := exists_trim s
  by_cases noTail : tail = []
  · rw [noTail, List.append_nil] at spelled
    conv_rhs => rw [spelled, after_blanks_append leadBlank]
  · conv_rhs => rw [spelled, after_append_blanks tailBlank noTail, after_blanks_append leadBlank]

/-- A text at the end of which a backslash is pending has no blanks there. -/
theorem exists_lead_of_escaped {s : Text} (escaped : (after s).escaped = true) :
    ∃ lead, allBlank lead = true ∧ s = lead ++ trim s ∧ after (trim s) = after s := by
  obtain ⟨lead, tail, leadBlank, tailBlank, spelled⟩ := exists_trim s
  have noTail : tail = [] := by
    by_contra nonempty
    rw [spelled, after_append_blanks tailBlank nonempty] at escaped
    cases escaped
  rw [noTail, List.append_nil] at spelled
  refine ⟨lead, leadBlank, spelled, ?_⟩
  conv_rhs => rw [spelled, after_blanks_append leadBlank]

end Cursor

namespace Piece

/-! ## Scanning pieces -/

theorem foldl_next_run {stops : Char → Bool} {s : Text} (run : Run stops s) (quote : stops '"' = true)
    (quoted : Bool) : s.foldl Cursor.next ⟨quoted, false⟩ = ⟨quoted, false⟩ := by
  induction run with
  | nil => rfl
  | @escape c more _ ih =>
    rw [List.foldl_cons, List.foldl_cons, Cursor.next_backslash, Cursor.next_escaped, ih]
  | @plain c more ordinary goesOn _ ih =>
    have noQuote : c ≠ '"' := (ne_of_differ quote goesOn).symm
    rw [List.foldl_cons, Cursor.next_plain ordinary noQuote, ih]

theorem after_raw {piece : Piece} (wellFormed : piece.WellFormed) : Cursor.after piece.raw = .start := by
  cases piece with
  | quoted body =>
    rw [Cursor.after, raw, List.cons_append, List.foldl_cons, Cursor.start, Cursor.next_quote,
      List.foldl_append, Bool.not_false, foldl_next_run wellFormed rfl]
    rfl
  | separator => rfl
  | bare run => exact foldl_next_run wellFormed.2 rfl false
  | gap blanks => exact Cursor.foldl_next_blanks (allBlank_iff.2 wellFormed.2) false

theorem after_flatMap_raw {pieces : List Piece} (wellFormed : ∀ piece ∈ pieces, piece.WellFormed) :
    Cursor.after (pieces.flatMap raw) = .start := by
  induction pieces with
  | nil => rfl
  | cons piece more ih =>
    obtain ⟨first, later⟩ := List.forall_mem_cons.1 wellFormed
    rw [List.flatMap_cons, Cursor.after_append, after_raw first]
    exact ih later

theorem quoted_of_closeQuote?_eq_none {s : Text} (unclosed : closeQuote? s = none) :
    (s.foldl Cursor.next ⟨true, false⟩).quoted = true := by
  fun_induction closeQuote? s with
  | case1 => rfl
  | case2 => rfl
  | case3 c rest ih => exact ih (Option.map_eq_none_iff.1 unclosed)
  | case4 rest => cases unclosed
  | case5 c rest notLast notEscape noQuote ih =>
    have ordinary := ne_backslash notLast notEscape
    rw [List.foldl_cons, Cursor.next_plain ordinary noQuote]
    exact ih (Option.map_eq_none_iff.1 unclosed)

/-! ## The place of a fault -/

/-- The texts at the beginning of which cutting stops. -/
inductive Offends : SyntaxFault → Text → Prop
  | quote {rest : Text} (unclosed : closeQuote? rest = none) :
      Offends .unterminatedQuote ('"' :: rest)
  | backslash : Offends .danglingEscape ['\\']

theorem Offends.fault?_after {fault : SyntaxFault} {rest : Text} (offends : Offends fault rest) :
    (Cursor.after rest).fault? = some fault := by
  cases offends with
  | quote unclosed =>
    rw [Cursor.after, List.foldl_cons, Cursor.start, Cursor.next_quote, Bool.not_false,
      Cursor.fault?, if_pos (quoted_of_closeQuote?_eq_none unclosed)]
  | backslash => rfl

/-- Everything before the place at which cutting stops is well-formed pieces. -/
theorem exists_of_cut_eq_error {s rest : Text} {fault : SyntaxFault}
    (failure : cut s = .error (fault, rest)) :
    ∃ before : List Piece, (∀ piece ∈ before, piece.WellFormed) ∧ s = before.flatMap raw ++ rest ∧
      Offends fault rest := by
  fun_induction cut s with
  | case1 => cases failure
  | case2 more unclosed =>
    cases failure
    exact ⟨[], by simp, rfl, .quote unclosed⟩
  | case3 more body after closed ih =>
    obtain ⟨before, formed, spelled, offends⟩ := ih (Outcome.map_eq_error failure)
    obtain ⟨rfl, run⟩ := run_of_closeQuote? closed
    refine ⟨.quoted body :: before, List.forall_mem_cons.2 ⟨run, formed⟩, ?_, offends⟩
    simp [raw, spelled]
  | case4 more ih =>
    obtain ⟨before, formed, spelled, offends⟩ := ih (Outcome.map_eq_error failure)
    exact ⟨.separator :: before, List.forall_mem_cons.2 ⟨trivial, formed⟩, by simp [raw, spelled], offends⟩
  | case5 =>
    cases failure
    exact ⟨[], by simp, rfl, .backslash⟩
  | case6 c more ih =>
    obtain ⟨before, formed, spelled, offends⟩ := ih (Outcome.map_eq_error failure)
    obtain ⟨parted, run⟩ := run_of_bareRun more
    refine ⟨.bare ('\\' :: c :: (bareRun more).1) :: before,
      List.forall_mem_cons.2 ⟨⟨by simp, run.escape⟩, formed⟩, ?_, offends⟩
    rw [List.flatMap_cons, raw, List.append_assoc, ← spelled, List.cons_append, List.cons_append, ← parted]
  | case7 c more _ _ _ _ blank ih =>
    obtain ⟨before, formed, spelled, offends⟩ := ih (Outcome.map_eq_error failure)
    have allBlank : ∀ d ∈ c :: more.takeWhile isBlank, isBlank d = true :=
      List.forall_mem_cons.2 ⟨blank, List.all_eq_true.1 List.all_takeWhile⟩
    refine ⟨.gap (c :: more.takeWhile isBlank) :: before,
      List.forall_mem_cons.2 ⟨⟨by simp, allBlank⟩, formed⟩, ?_, offends⟩
    rw [List.flatMap_cons, raw, List.append_assoc, ← spelled, List.cons_append,
      List.takeWhile_append_dropWhile]
  | case8 c more noQuote noSeparator notLast notEscape solid ih =>
    obtain ⟨before, formed, spelled, offends⟩ := ih (Outcome.map_eq_error failure)
    obtain ⟨parted, run⟩ := run_of_bareRun more
    have goesOn : endsBare c = false := by
      simp only [endsBare, Bool.or_eq_false_iff, decide_eq_false_iff_not]
      exact ⟨⟨Bool.eq_false_iff.2 solid, noQuote⟩, noSeparator⟩
    have ordinary := ne_backslash notLast notEscape
    refine ⟨.bare (c :: (bareRun more).1) :: before,
      List.forall_mem_cons.2 ⟨⟨by simp, run.plain ordinary goesOn⟩, formed⟩, ?_, offends⟩
    rw [List.flatMap_cons, raw, List.append_assoc, ← spelled, List.cons_append, ← parted]

/-- Cutting fails exactly where a scan ends inside quotes or behind a backslash. -/
theorem exists_cut_eq_error_iff {s : Text} {fault : SyntaxFault} :
    (∃ rest, cut s = .error (fault, rest)) ↔ (Cursor.after s).fault? = some fault := by
  constructor
  · rintro ⟨rest, failure⟩
    obtain ⟨before, formed, rfl, offends⟩ := exists_of_cut_eq_error failure
    rw [Cursor.after_append, after_flatMap_raw formed]
    exact offends.fault?_after
  · intro faulty
    cases outcome : cut s with
    | ok pieces =>
      obtain ⟨lexed, rfl⟩ := cut_eq_ok_iff.1 outcome
      rw [after_flatMap_raw lexed.wellFormed] at faulty
      cases faulty
    | error stop =>
      obtain ⟨found, rest⟩ := stop
      obtain ⟨before, formed, rfl, offends⟩ := exists_of_cut_eq_error outcome
      rw [Cursor.after_append, after_flatMap_raw formed] at faulty
      cases faulty.symm.trans offends.fault?_after
      exact ⟨rest, rfl⟩

end Piece

namespace Segment

theorem exists_split_eq_error_iff {query : Text} {fault : SyntaxFault} :
    (∃ e, split query = .error e ∧ e.fault = fault) ↔
      (Cursor.after (trim query)).fault? = some fault := by
  rw [← Piece.exists_cut_eq_error_iff, split]
  cases outcome : Piece.cut (trim query) with
  | ok pieces => split <;> simp
  | error stop =>
    obtain ⟨found, rest⟩ := stop
    have nonempty : ¬(trim query).isEmpty = true := by
      intro empty
      rw [List.isEmpty_iff.1 empty, Piece.cut_nil] at outcome
      cases outcome
    rw [if_neg nonempty]
    simp

theorem exists_unterminatedQuote_iff {query : Text} :
    (∃ e, split query = .error e ∧ e.fault = .unterminatedQuote) ↔
      (Cursor.after query).quoted = true := by
  rw [exists_split_eq_error_iff, Cursor.fault?_eq_unterminatedQuote_iff, Cursor.quoted_after_trim]

theorem exists_danglingEscape_iff {query : Text} :
    (∃ e, split query = .error e ∧ e.fault = .danglingEscape) ↔
      ∃ body blanks, query = body ++ blanks ∧ allBlank blanks = true ∧
        Cursor.after body = ⟨false, true⟩ := by
  rw [exists_split_eq_error_iff, Cursor.fault?_eq_danglingEscape_iff]
  constructor
  · intro pending
    obtain ⟨lead, tail, leadBlank, tailBlank, spelled⟩ := exists_trim query
    exact ⟨lead ++ trim query, tail, spelled, tailBlank,
      (Cursor.after_blanks_append leadBlank (trim query)).trans pending⟩
  · rintro ⟨body, blanks, rfl, blank, pending⟩
    -- The scan stands behind a backslash, so nothing is trimmed off the end of the body.
    obtain ⟨lead, leadBlank, spelled, bodyEnd⟩ :=
      Cursor.exists_lead_of_escaped (s := body) (by rw [pending])
    have trimmed : trim (body ++ blanks) = trim body := by
      conv_lhs => rw [spelled]
      exact trim_surrounded leadBlank blank (trimmed_trim body)
    rw [trimmed, bodyEnd, pending]

/-- Splitting fails for an unterminated quote exactly when a scan of the search string ends inside quotes, and
for a dangling escape character exactly when a scan of it without some blanks at its end stops right behind a
backslash outside quotes; there is no other reason. -/
theorem split_fails_iff (query reason : Text) :
    (∃ e, split query = .error e ∧ e.fault.reason = reason) ↔
      reason = "unterminated quote".toList ∧ (Cursor.after query).quoted = true ∨
        reason = "dangling escape character".toList ∧
          ∃ body blanks, query = body ++ blanks ∧ allBlank blanks = true ∧
            Cursor.after body = ⟨false, true⟩ := by
  rw [← exists_unterminatedQuote_iff, ← exists_danglingEscape_iff]
  constructor
  · rintro ⟨e, failure, rfl⟩
    cases found : e.fault with
    | unterminatedQuote => exact .inl ⟨rfl, e, failure, found⟩
    | danglingEscape => exact .inr ⟨rfl, e, failure, found⟩
  · rintro (⟨rfl, e, failure, found⟩ | ⟨rfl, e, failure, found⟩)
    · exact ⟨e, failure, by rw [found]; rfl⟩
    · exact ⟨e, failure, by rw [found]; rfl⟩

/-- A backslash before a blank at the very end is reported too, for the blank is trimmed off before the search
string is cut. -/
theorem not_split_fails_iff_scan :
    ¬∀ query reason : Text,
      (∃ e, split query = .error e ∧ e.fault.reason = reason) ↔
        reason = "unterminated quote".toList ∧ (Cursor.after query).quoted = true ∨
          reason = "dangling escape character".toList ∧ Cursor.after query = ⟨false, true⟩ := by
  intro claimed
  have failure : split "abc\\ ".toList = .error ⟨"abc\\ ".toList, .danglingEscape, 4⟩ := by
    decide +kernel
  have sound : Cursor.after "abc\\ ".toList = .start := by decide
  have scanned := (claimed "abc\\ ".toList "dangling escape character".toList).1 ⟨_, failure, rfl⟩
  rw [sound] at scanned
  rcases scanned with ⟨-, quoted⟩ | ⟨-, pending⟩
  · cases quoted
  · cases pending

end Segment

end SearchQuery
