import InteractiveShell.World

/-!
# Finding programs

The value of `PATH` is a list of directories separated by colons; an empty value is one empty
directory, and without a value there is none.  A name without a slash is looked for in each
directory in turn, and the first executable wins.  A name with a slash is used as it stands.

Completion lists the directories instead of probing them.  A directory that cannot be listed is
passed over.
-/

namespace InteractiveShell

/-- The directories in which programs are looked for, in order. -/
def searchDirectories (path : Option Text) : List Text :=
  match path with
  | none => []
  | some value => value.splitOn ':'

namespace World

/-- The directories on the search path. -/
def searchDirectories (world : World) : List Text :=
  InteractiveShell.searchDirectories world.environment.path

/-- The first executable of a name among directories, as a path. -/
def findIn (world : World) (name : Text) (directories : List Text) : Option Text :=
  (directories.map fun directory => Path.join directory name).find? world.isExecutable

/-- The path of the executable that a command's name stands for. -/
def find? (world : World) (name : Text) : Option Text :=
  if '/' ∈ name then
    if world.isExecutable name then some name else none
  else
    world.findIn name world.searchDirectories

/-- The names of the executables in a directory; none if it cannot be listed. -/
def executablesIn (world : World) (directory : Text) : List Text :=
  match world.files.list world.directory directory with
  | .error _ => []
  | .ok names => names.filter fun name => world.isExecutable (Path.join directory name)

/-- The names on the search path of executables that begin with a text, repetitions included. -/
def executablesFrom (world : World) (beginning : Text) : List Text :=
  world.searchDirectories.flatMap fun directory =>
    (world.executablesIn directory).filter beginning.isPrefixOf

end World

end InteractiveShell
