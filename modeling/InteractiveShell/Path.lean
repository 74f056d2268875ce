import InteractiveShell.Text.Basic

/-!
# Paths as texts

A path is a text in which slashes separate names.  This module says what can be said without looking
at any file: the names in a path, how a name is joined to a directory, which path is the absolute
form of another and which is its parent.
-/

namespace InteractiveShell

namespace Path

/-- The name of the directory that is looked at itself. -/
def here : Text :=
  ['.']

/-- The name of the directory above. -/
def above : Text :=
  ['.', '.']

/-- The step that a slash at the end of a path stands for: it stays where it is, which has to be a
directory. -/
def slash : Text :=
  []

/-- Whether a path starts at the root. -/
def isAbsolute (path : Text) : Bool :=
  path.head? = some '/'

/-- Whether a path ends in a slash, which asks for a directory. -/
def endsInSlash (path : Text) : Bool :=
  path.getLast? = some '/'

/-- The names in a path.  Repeated slashes count once. -/
def names (path : Text) : List Text :=
  (path.splitOn '/').filter fun name => !name.isEmpty

/-- The steps to take along a path. -/
def steps (path : Text) : List Text :=
  names path ++ if endsInSlash path then [slash] else []

/-- A path below a directory.  An absolute path stays as it is, the empty directory adds nothing,
and an empty path adds a slash. -/
def join (directory path : Text) : Text :=
  if isAbsolute path then path
  else if directory.isEmpty || endsInSlash directory then directory ++ path
  else directory ++ '/' :: path

/-- The names in a path that lead somewhere else. -/
def properNames (path : Text) : List Text :=
  (names path).filter fun name => name ≠ here

/-- The root as an absolute path shows it.  Exactly two slashes in front are kept. -/
def rootOf (path : Text) : Text :=
  match path with
  | '/' :: '/' :: '/' :: _ => ['/']
  | '/' :: '/' :: _ => ['/', '/']
  | _ => ['/']

/-- The absolute form of a path, seen from the current directory.  Only a relative path needs that
directory.  Steps to the directory itself and repeated slashes are dropped, steps to the directory
above and a slash at the end are kept. -/
def absolute? (current? : Option Text) (path : Text) : Option Text :=
  let base? := if isAbsolute path then some (rootOf path) else current?
  base?.map fun base =>
    let joined := (properNames path).foldl join base
    if endsInSlash path then join joined [] else joined

/-- The directory that holds the last name of a path; nothing for a path without names. -/
def parent? (path : Text) : Option Text :=
  match properNames path with
  | [] => none
  | found => some (found.dropLast.foldl join (if isAbsolute path then ['/'] else []))

/-- The absolute path along names from the root. -/
def ofNames (location : List Text) : Text :=
  location.foldl join ['/']

end Path

end InteractiveShell
