import SearchQuery.Command.Run

/-!
# The executable

Takes a picture of the files that a run may touch, runs the program on it, prints what the run printed, and
writes the files that the run changed.
-/

set_option autoImplicit false

namespace SearchQuery

/-- What the file system holds at a path. -/
def Path.look (path : Path) : IO (Option Item) := do
  let name := String.ofList path.text
  try
    return some (.file (← IO.FS.readBinFile name))
  catch _ =>
    try
      let _ ← IO.FS.realPath name
      return some .directory
    catch _ => return none

/-- The items at some paths and on the ways to them. -/
def Store.picture (paths : List Path) : IO Store := do
  let mut store : Store := ⟨[]⟩
  for path in paths do
    for n in List.range path.length do
      let ancestor := path.take (n + 1)
      if let some item ← Path.look ancestor then
        store := store.put ancestor item
  return store

/-- Writes what was added or changed since a picture was taken. -/
def Store.commit (before after : Store) : IO Unit := do
  for (path, item) in after.items do
    let name := String.ofList path.text
    match item, before.items.lookup path with
    | .directory, none => IO.FS.createDirAll name
    | .directory, some _ => pure ()
    | .file content, some (.file old) =>
      if content.data != old.data then IO.FS.writeBinFile name content
    | .file content, _ => IO.FS.writeBinFile name content

def Stop.status : Stop → Nat
  | .exit status => status
  | .breakdown _ => Run.failureStatus

/-- The home directories of the users that a system lists, one on a line. -/
def homesOf (listing : String) : List (Text × Path) :=
  (Text.stretches (· = '\n') listing.toList).filterMap fun line =>
    match Text.stretches (· = ':') line with
    | [name, _, _, _, _, home, _] => some (name, Path.below [] home)
    | _ => none

def Environment.current : IO Environment := do
  let absolute (name : String) : Path := Path.below [] name.toList
  let working := absolute (← IO.currentDir).toString
  let home := ((← IO.getEnv "HOME").map absolute).getD working
  let users ← try IO.FS.readFile "/etc/passwd" catch _ => pure ""
  return ⟨"mediathek-search", ⟨working, home, homesOf users⟩, (← IO.getEnv "NO_COLOR").isSome⟩

end SearchQuery

open SearchQuery in
def main (arguments : List String) : IO UInt32 := do
  let environment ← Environment.current
  let words := arguments.map String.toList
  let files ← Store.picture (Run.filePaths environment words)
  let (outcome, session) := (Run.program environment words).finish { files }
  IO.print (String.ofList session.stdout)
  IO.eprint (String.ofList session.stderr)
  files.commit session.files
  return match outcome with
    | .ok () => 0
    | .error stop => stop.status.toUInt32
