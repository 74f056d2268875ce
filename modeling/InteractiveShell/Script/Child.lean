import InteractiveShell.Program
import InteractiveShell.Script.Field

/-!
# Programs that scripts start

Where a script finds a program, what a process becomes when it executes one, and how the failure to
do so is told.
-/

namespace InteractiveShell

namespace Script

/-- Where a script looks for programs if no variable says so. -/
def defaultPath : Text :=
  "/usr/local/sbin:/usr/local/bin:/usr/sbin:/usr/bin:/sbin:/bin".toList

/-- The path of the interpreter of scripts. -/
def interpreterPath : Text :=
  "/bin/sh".toList

/-- Whether nothing was found where something was looked for. -/
def isMissing (cause : SystemError) : Bool :=
  cause = .noSuchEntry || cause = .notDirectory

/-- Why a program cannot be executed, in words. -/
def startFailure (cause : SystemError) : String :=
  if isMissing cause then "not found" else cause.description

/-- The status of a command whose program cannot be executed. -/
def startStatus (cause : SystemError) : Nat :=
  if isMissing cause || cause = .nameTooLong || cause = .tooManyLinks then 127 else 126

namespace Process

/-- The variables that other programs get to see. -/
def environment (process : Process) : List (Text × Bytes) :=
  process.bindings.filter fun entry => process.exported.contains entry.1

/-- The paths at which a name is looked for along a search path. -/
def candidates (searchPath : Text) (name : Text) : List Text :=
  (searchPath.splitOn ':').map fun directory => Path.join directory name

/-- The directories in which the script looks for programs. -/
def searchPath (process : Process) : Text :=
  ((process.value? "PATH".toList).map Utf8.decode).getD defaultPath

/-- The paths at which the program of a name is tried, one after the other, or why there is none.  A
name with a slash is a path. -/
def programPaths (process : Process) (searchPath : Text) (name : Bytes) :
    Except SystemError (List Text) :=
  let text := Utf8.decode name
  if '/' ∈ text then .ok [text]
  else
    let paths := candidates searchPath text
    match paths.dropWhile fun path => !process.files.isExecutable process.directory path with
    | [] => .error (paths.foldl (considering process) .noSuchEntry)
    | found => .ok found
where
  /-- What a look at a path that leads to no program changes about why there is none. -/
  considering (process : Process) (cause : SystemError) (path : Text) : SystemError :=
    match process.files.resolve process.directory path with
    | .ok _ => .permissionDenied
    | .error found => if isMissing found then cause else found

/-- The arguments with which the interpreter runs when a process executes the program at a path.  A
file that names no interpreter is a script. -/
def startAt (process : Process) (path : Text) (name : Bytes) (arguments : List Bytes) :
    Except SystemError (List Bytes) :=
  let exported := process.environment.map fun (name, value) =>
    bytesOf name ++ bytes "=" ++ value
  let start := Program.start process.files process.writtenFiles process.directory exported
  match start path name arguments with
  | .error .notExecutable =>
    start interpreterPath interpreterPath.encode (path.encode :: arguments)
  | other => other

/-- The arguments with which the interpreter runs when a process executes the first program that it
can, of those at some paths. -/
def startFirst (process : Process) (name : Bytes) (arguments : List Bytes) :
    SystemError → List Text → Except SystemError (List Bytes)
  | cause, [] => .error cause
  | cause, path :: others =>
    match process.startAt path name arguments with
    | .ok vector => .ok vector
    | .error found =>
      process.startFirst name arguments (if isMissing found then cause else found) others

/-- What a process becomes when it executes a program. -/
def executing (process : Process) : Process :=
  { process with
    busy := process.writtenFiles
    bindings := process.environment
    fixed := []
    shadowed := []
    calls := 0
    functions := []
    documents := #[]
    aliases := []
    arguments := []
    optionIndex := 1
    optionOffset := none
    outputFailed := false
    line := 0
    lineReached := 0
    utility := none
    loops := 0
    isPart := false
    status := 0
    substitutionStatus := 0
    control := .running
    settings := []
    isShowing := false
    guarded := false
    traps := []
    arrived := []
    statusBefore := none
    located := []
    ignored := process.ignored ++ process.traps.filterMap fun (signal, action) =>
      if signal ≠ 0 && action.isEmpty then some signal else none
    jobs := []
    latestNumber := none
    isLast := false }

/-- Gives a process the variables that every script has. -/
def withOwnVariables (process : Process) : Process :=
  let path := (process.bindings.lookup "PWD".toList).map Utf8.decode
  let leadsHere := path.filter fun path => Path.isAbsolute path &&
    (process.files.resolveDirectory process.directory path).toOption = some process.directory
  let directoryPath := leadsHere.getD ((process.files.pathOf? process.directory).getD [])
  let own := [("PWD", directoryPath.encode), ("IFS", bytes " \t\n"), ("OPTIND", bytes "1"),
    ("PPID", decimal ownNumber)]
  let initial := [("PS1", bytes "# "), ("PS2", bytes "> "), ("PS4", bytes "+ "),
      ("PATH", defaultPath.encode)].filterMap fun (name, value) =>
    if (process.bindings.lookup name.toList).isSome then none else some (name.toList, value)
  let bindings := own.foldl (fun bindings (name, value) => update bindings name.toList value)
    (process.bindings ++ initial)
  { process with
    bindings := bindings
    directoryPath := directoryPath
    : Process }.expose "PWD".toList

end Process

end Script

end InteractiveShell
