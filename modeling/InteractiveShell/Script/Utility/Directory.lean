import InteractiveShell.Script.Utility.Basic
import InteractiveShell.Text.Utf8

/-!
# The utilities for the working directory

The path of the working directory is kept as it was reached, with the links on the way, or else
without them.
-/

namespace InteractiveShell

namespace Script

/-- Names the working directory. -/
def pwd (process : Process) (arguments : List Bytes) : Process :=
  withOptions "LP" process arguments fun letters _ =>
    let path :=
      if letters.getLast? = some 'P' then process.files.pathOf? process.directory
      else some process.directoryPath
    match path with
    | some path => (process.emit 1 (Text.encode path ++ bytes "\n")).withStatus 0
    | none => process.fail 1 (bytes "getcwd() failed: No such file or directory")

/-- The path to which a path leads from a directory when names are only crossed out. -/
def lexicalPath (directory path : Text) : Text :=
  let start := if Path.isAbsolute path then Path.rootOf path else directory
  (Path.properNames path).foldl step start
where
  step (path name : Text) : Text :=
    if name = Path.above then
      if path = ['/', '/'] then path else (Path.parent? path).getD ['/']
    else Path.join path name

/-- Moves the working directory along a path. -/
def Process.moveTo (process : Process) (path : Text) (physical : Bool) : Option Process :=
  let aim := if physical then path else lexicalPath process.directoryPath path
  match process.files.resolveDirectory process.directory aim with
  | .error _ => none
  | .ok id =>
    let reached := if physical then (process.files.pathOf? id).getD aim else aim
    let moved := { process with directory := id, directoryPath := reached : Process }
    let marked := (moved.expose "OLDPWD".toList).expose "PWD".toList
    some ((marked.assign "OLDPWD".toList process.directoryPath.encode).assign "PWD".toList
      reached.encode)

/-- The paths at which a directory is looked for, with whether the one that is found is named. -/
def directoryCandidates (process : Process) (target : Text) : List (Text × Bool) :=
  let isDirect := Path.isAbsolute target ||
    ((target.splitOn '/').head?.any fun first => first = Path.here || first = Path.above)
  if isDirect then [(target, false)]
  else
    let target := if target.isEmpty then Path.here else target
    let places := ((process.value? "CDPATH".toList).map Utf8.decode).getD []
    (places.splitOn ':').map fun place =>
      if place.isEmpty then (target, false) else (place ++ ['/'] ++ target, true)

/-- Changes the working directory. -/
def cd (process : Process) (arguments : List Bytes) : Process :=
  withOptions "LP" process arguments fun letters operands =>
    let isBack := operands.head? = some (bytes "-")
    let destination :=
      match operands with
      | [] => process.value? "HOME".toList
      | first :: _ => if isBack then process.value? "OLDPWD".toList else some first
    let given := Utf8.decode (destination.getD [])
    let moved := (directoryCandidates process given).findSome? fun (path, shown) =>
      (process.moveTo path (letters.getLast? = some 'P')).map fun moved => (moved, shown)
    match moved with
    | none => process.abort (bytes "can't cd to " ++ given.encode)
    | some (moved, shown) =>
      let line := moved.directoryPath.encode ++ bytes "\n"
      (if shown || isBack then moved.emit 1 line else moved).withStatus 0

end Script

end InteractiveShell
