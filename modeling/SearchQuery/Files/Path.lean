import SearchQuery.Text.Basic

/-!
# Paths

An absolute path is the list of its components.  A path as it is typed may be relative, may start at the home
directory, and may hold dots.
-/

set_option autoImplicit false

namespace SearchQuery

abbrev Path := List Text

namespace Path

def text (path : Path) : Text :=
  '/' :: Text.join ['/'] path

/-- The components of a typed path; empty ones and single dots do not count. -/
def components (typed : Text) : List Text :=
  (Text.stretches (· = '/') typed).filter fun part => !part.isEmpty && part ≠ ['.']

/-- Follows components from a directory, two dots leading to its parent. -/
def follow (start : Path) (components : List Text) : Path :=
  components.foldl (fun path part => if part = ['.', '.'] then path.dropLast else path ++ [part]) start

/-- The place that a typed path names, or nothing if it starts at the home of a user who has none. -/
def resolve? (working : Path) (homeOf : Text → Option Path) (typed : Text) : Option Path :=
  match components typed with
  | ('~' :: user) :: rest =>
    if typed.head? = some '/' then some (follow [] (('~' :: user) :: rest))
    else (homeOf user).map (follow · rest)
  | parts => some (follow (if typed.head? = some '/' then [] else working) parts)

/-- The place of a file below a directory, by a path without special parts. -/
def below (directory : Path) (relative : Text) : Path :=
  follow directory (components relative)

end Path

end SearchQuery
