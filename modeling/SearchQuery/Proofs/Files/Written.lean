import SearchQuery.Files.Store
import SearchQuery.Proofs.Outcome

/-!
# Written files

A file that has been written is found where it was written, with the content that it was given.  Writing needs the
directories that lead to the file, and setting the file changes none of them.
-/

set_option autoImplicit false

namespace SearchQuery.Store

theorem lookup_replaced (items : List (Path × Item)) (path other : Path) (item : Item) :
    (items.map fun entry => if entry.1 = path then (path, item) else entry).lookup other =
      if other = path then (items.lookup path).map fun _ => item else items.lookup other := by
  induction items with
  | nil => simp
  | cons entry rest ih =>
    obtain ⟨key, old⟩ := entry
    rw [List.map_cons]
    by_cases replaced : key = path
    · subst replaced
      by_cases same : other = key
      · simp [same]
      · have different : (other == key) = false := beq_eq_false_iff_ne.2 same
        rw [if_pos rfl, if_neg same, List.lookup_cons, List.lookup_cons, different, ih, if_neg same]
    · have different : (path == key) = false := beq_eq_false_iff_ne.2 (Ne.symm replaced)
      rw [if_neg replaced, List.lookup_cons, List.lookup_cons, different, ih, List.lookup_cons]
      by_cases same : other = path
      · subst same
        rw [different]
      · rw [if_neg same, if_neg same]

/-- Setting an item changes what is found at its path and nowhere else. -/
theorem lookup_put (store : Store) (path other : Path) (item : Item) :
    (store.put path item).items.lookup other =
      if other = path then some item else store.items.lookup other := by
  rw [put]
  split
  next present =>
    obtain ⟨old, found⟩ := Option.isSome_iff_exists.1 present
    rw [lookup_replaced, found]
    rfl
  next absent =>
    have missing : store.items.lookup path = none := Option.not_isSome_iff_eq_none.1 absent
    change (store.items ++ [(path, item)]).lookup other = _
    rw [List.lookup_append]
    by_cases same : other = path
    · subst same
      simp [missing]
    · have different : (other == path) = false := beq_eq_false_iff_ne.2 same
      simp [same, List.lookup_cons, different]

/-- The last step of a walk. -/
theorem walk_concat (store : Store) (path passed directories : Path) (name : Text) :
    store.walk path passed (directories ++ [name]) =
      store.walk path passed directories >>= fun item =>
        match item with
        | .file _ => .error (.notDirectory path)
        | .directory =>
          if byteLength name > maxNameBytes then .error (.nameTooLong path)
          else
            match store.items.lookup (passed ++ directories ++ [name]) with
            | none => .error (.missing path)
            | some item => .ok item := by
  induction directories generalizing passed with
  | nil =>
    rw [List.nil_append, List.append_nil]
    change walk store path passed (name :: []) = if _ then _ else _
    rw [walk]
    split
    next => rfl
    next =>
      cases store.items.lookup (passed ++ [name]) with
      | none => rfl
      | some item => cases item <;> rfl
  | cons directory directories ih =>
    rw [List.cons_append, walk, walk]
    split
    next => rfl
    next =>
      cases store.items.lookup (passed ++ [directory]) with
      | none => rfl
      | some item =>
        cases item with
        | file content => cases directories <;> rfl
        | directory =>
          have regrouped : passed ++ directory :: directories = passed ++ [directory] ++ directories := by simp
          rw [regrouped]
          exact ih (passed ++ [directory])

/-- What a walk finds does not depend on the path that is reported if it fails. -/
theorem walk_eq_ok_of_walk {store : Store} {path passed names : Path} {item : Item}
    (success : store.walk path passed names = .ok item) (other : Path) :
    store.walk other passed names = .ok item := by
  induction names generalizing passed with
  | nil => exact success
  | cons name rest ih =>
    rw [walk] at success ⊢
    split at success
    next => cases success
    next short =>
      rw [if_neg short]
      cases found : store.items.lookup (passed ++ [name]) with
      | none =>
        rw [found] at success
        cases success
      | some entry =>
        rw [found] at success
        cases entry with
        | directory => exact ih success
        | file content =>
          cases rest with
          | nil => exact success
          | cons next rest => cases success

/-- A walk that ends before a path does not notice what is set there. -/
theorem walk_put {store : Store} {target path passed names : Path} {item : Item}
    (shorter : passed.length + names.length < target.length) :
    (store.put target item).walk path passed names = store.walk path passed names := by
  induction names generalizing passed with
  | nil => rfl
  | cons name rest ih =>
    have different : passed ++ [name] ≠ target := by
      rintro rfl
      simp at shorter
    rw [walk, walk, lookup_put, if_neg different, ih (by simp at shorter ⊢; omega)]

theorem walk_of_isDirectory {store : Store} {path : Path} (directory : store.isDirectory path = true) :
    store.walk path [] path = .ok .directory := by
  rw [isDirectory] at directory
  split at directory
  next found =>
    rw [find] at found
    split at found
    next => cases found
    next => exact found
  next => cases directory

theorem create_eq_ok {store created : Store} {path : Path} {item : Item}
    (success : store.create path item = .ok created) :
    created = store.put path item ∧ store.walk path.dropLast [] path.dropLast = .ok .directory := by
  rw [create] at success
  split at success
  next directory =>
    cases success
    exact ⟨rfl, walk_of_isDirectory directory⟩
  next => cases success

/-- A path to which a file is written ends in a name behind directories. -/
theorem write_eq_ok {store written : Store} {path : Path} {content : ByteArray}
    (success : store.write path content = .ok written) :
    ∃ directories name, path = directories ++ [name] ∧ ¬byteLength path.text > maxPathBytes ∧
      ¬byteLength name > maxNameBytes ∧ store.walk path [] directories = .ok .directory ∧
      written = store.put path (.file content) := by
  obtain rfl | ⟨directories, name, rfl⟩ := List.eq_nil_or_concat' path
  · cases success
  refine ⟨directories, name, rfl, ?_⟩
  rw [write] at success
  by_cases long : byteLength (Path.text (directories ++ [name])) > maxPathBytes
  · rw [find, if_pos long] at success
    cases success
  rw [find, if_neg long, walk_concat] at success
  refine ⟨long, ?_⟩
  cases reached : store.walk (directories ++ [name]) [] directories with
  | error fault =>
    rw [reached] at success
    -- A file is made where there was none only in a directory, and the walk would have reached it.
    cases fault with
    | missing _ =>
      obtain ⟨-, directory⟩ := create_eq_ok success
      rw [List.dropLast_concat] at directory
      cases reached.symm.trans (walk_eq_ok_of_walk directory _)
    | _ => cases success
  | ok item =>
    rw [reached] at success
    cases item with
    | file _ => cases success
    | directory =>
      by_cases longName : byteLength name > maxNameBytes
      · simp only [bind, Except.bind, if_pos longName] at success
        cases success
      · refine ⟨longName, rfl, ?_⟩
        simp only [bind, Except.bind, if_neg longName] at success
        cases found : store.items.lookup ([] ++ directories ++ [name]) with
        | none =>
          rw [found] at success
          exact (create_eq_ok success).1
        | some old =>
          rw [found] at success
          cases old with
          | directory => cases success
          | file _ =>
            cases success
            rfl

theorem find_of_write {store written : Store} {path : Path} {content : ByteArray}
    (success : store.write path content = .ok written) : written.find path = .ok (.file content) := by
  obtain ⟨directories, name, rfl, short, shortName, reached, rfl⟩ := write_eq_ok success
  rw [find, if_neg short, walk_concat, walk_put (by simp), reached]
  change (if _ then _ else _) = _
  rw [if_neg shortName, List.nil_append, lookup_put, if_pos rfl]

theorem find_of_place {store placed : Store} {path : Path} {content : ByteArray}
    (success : store.place path content = (.ok (), placed)) : placed.find path = .ok (.file content) := by
  rw [place] at success
  split at success
  next => cases success
  next made _ =>
    cases written : made.write path content with
    | error fault =>
      rw [written] at success
      cases success
    | ok result =>
      rw [written] at success
      cases success
      exact find_of_write written

end SearchQuery.Store
