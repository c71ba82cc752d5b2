import SearchQuery.Files.Path
import SearchQuery.Text.Digit
import SearchQuery.Text.Quoted

/-!
# Stores of files

A store holds files and directories under absolute paths.  A path is followed name by name, and the first name
that leads nowhere tells what is wrong with it.  What the system refuses is reported with the number and the words
of the system's own error.
-/

set_option autoImplicit false

namespace SearchQuery

inductive FileFault where
  | missing (path : Path)
  | exists (path : Path)
  | notDirectory (path : Path)
  | isDirectory (path : Path)
  | nameTooLong (path : Path)
deriving DecidableEq

namespace FileFault

def number : FileFault → Nat
  | .missing _ => 2
  | .exists _ => 17
  | .notDirectory _ => 20
  | .isDirectory _ => 21
  | .nameTooLong _ => 36

def words : FileFault → Text
  | .missing _ => "No such file or directory"
  | .exists _ => "File exists"
  | .notDirectory _ => "Not a directory"
  | .isDirectory _ => "Is a directory"
  | .nameTooLong _ => "File name too long"

def path : FileFault → Path
  | .missing path | .exists path | .notDirectory path | .isDirectory path | .nameTooLong path => path

def message (fault : FileFault) : Text :=
  "[Errno " ++ Text.decimal fault.number ++ "] " ++ fault.words ++ ": " ++
    Text.quoted fault.path.text

end FileFault

inductive Item where
  | file (content : ByteArray)
  | directory

/-- The items of a store below the root, which is a directory always. -/
structure Store where
  items : List (Path × Item)

namespace Store

/-- The longest name of an item, in bytes. -/
def maxNameBytes : Nat := 255

/-- The longest path, in bytes. -/
def maxPathBytes : Nat := 4095

def byteLength (s : Text) : Nat :=
  (String.ofList s).utf8ByteSize

/-- Sets an item, in its place if there was one. -/
def put (store : Store) (path : Path) (item : Item) : Store :=
  if (store.items.lookup path).isSome then
    ⟨store.items.map fun entry => if entry.1 = path then (path, item) else entry⟩
  else ⟨store.items ++ [(path, item)]⟩

/-- Goes on from a directory by the names that are left of a path. -/
def walk (store : Store) (path passed : Path) : List Text → Except FileFault Item
  | [] => .ok .directory
  | name :: rest =>
    if byteLength name > maxNameBytes then .error (.nameTooLong path)
    else
      match store.items.lookup (passed ++ [name]) with
      | none => .error (.missing path)
      | some (.file content) => if rest.isEmpty then .ok (.file content) else .error (.notDirectory path)
      | some .directory => walk store path (passed ++ [name]) rest

/-- The item at a path. -/
def find (store : Store) (path : Path) : Except FileFault Item :=
  if byteLength path.text > maxPathBytes then .error (.nameTooLong path) else store.walk path [] path

def isDirectory (store : Store) (path : Path) : Bool :=
  match store.find path with
  | .ok .directory => true
  | _ => false

/-- Whether there is an item at a path.  This can be told of all paths but those that are too long. -/
def contains (store : Store) (path : Path) : Except FileFault Bool :=
  match store.find path with
  | .ok _ => .ok true
  | .error (.nameTooLong path) => .error (.nameTooLong path)
  | .error _ => .ok false

def read (store : Store) (path : Path) : Except FileFault ByteArray :=
  match store.find path with
  | .ok (.file content) => .ok content
  | .ok .directory => .error (.isDirectory path)
  | .error fault => .error fault

/-- Sets an item at a path where there is none, if the directory for it is there. -/
def create (store : Store) (path : Path) (item : Item) : Except FileFault Store :=
  if store.isDirectory path.dropLast then .ok (store.put path item) else .error (.missing path)

def write (store : Store) (path : Path) (content : ByteArray) : Except FileFault Store :=
  match store.find path with
  | .ok .directory => .error (.isDirectory path)
  | .ok (.file _) => .ok (store.put path (.file content))
  | .error (.missing _) => store.create path (.file content)
  | .error fault => .error fault

/-- Makes one directory. -/
def makeDirectory (store : Store) (path : Path) : Except FileFault Store :=
  match store.find path with
  | .ok _ => .error (.exists path)
  | .error (.missing _) => store.create path .directory
  | .error fault => .error fault

/-- Makes a directory where there may be one already, and before it its parents as far as they are missing.  The
names are given from the last to the first.  Parents that have been made stay if the directory cannot be made. -/
def makeUpward (store : Store) : List Text → Except FileFault Unit × Store
  | [] => (.ok (), store)
  | name :: parents =>
    let path := (name :: parents).reverse
    match store.makeDirectory path with
    | .ok made => (.ok (), made)
    | .error (.missing _) =>
      match store.makeUpward parents with
      | (.error fault, store) => (.error fault, store)
      | (.ok (), store) =>
        match store.makeDirectory path with
        | .ok made => (.ok (), made)
        | .error fault => (.error fault, store)
    | .error fault => (if store.isDirectory path then .ok () else .error fault, store)

/-- Makes the directories that lead to a path and the one at the path, as far as they are missing. -/
def makeDirectories (store : Store) (path : Path) : Except FileFault Unit × Store :=
  store.makeUpward path.reverse

/-- Writes a file, and makes the directories that lead to it. -/
def place (store : Store) (path : Path) (content : ByteArray) : Except FileFault Unit × Store :=
  match store.makeDirectories path.dropLast with
  | (.error fault, store) => (.error fault, store)
  | (.ok (), store) =>
    match store.write path content with
    | .ok written => (.ok (), written)
    | .error fault => (.error fault, store)

/-- The places of all files below a directory, relative to it. -/
def filesBelow (store : Store) (directory : Path) : List Text :=
  store.items.filterMap fun (path, item) =>
    match item with
    | .file _ =>
      if directory.isPrefixOf path then some (Text.join ['/'] (path.drop directory.length)) else none
    | .directory => none

end Store

end SearchQuery
