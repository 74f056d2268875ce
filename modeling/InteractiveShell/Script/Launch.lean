import InteractiveShell.Dispatch
import InteractiveShell.Script.Run

/-!
# Launching programs

A launched program runs in its own directory with `PATH` and `HOME` of the shell as its environment
and with nothing on its standard input.  What it writes is captured.  Every program is in the end a
script, or the interpreter of scripts itself.
-/

namespace InteractiveShell

namespace Launch

/-- The directory in which a program runs. -/
def resolveDirectory (launch : Launch) (world : World) : Except SystemError NodeId :=
  match launch.directory with
  | none => .ok world.directory
  | some path => world.files.resolveDirectory world.directory path

end Launch

namespace Script

/-- The variables that a shell's environment gives to programs. -/
def variablesOf (environment : Environment) : List (Text × Bytes) :=
  [("PATH", environment.path), ("HOME", environment.home)].filterMap fun (name, value?) =>
    value?.map fun value => (name.toList, value.encode)

/-- A process before a program runs in it. -/
def initialProcess (world : World) (directory : NodeId) : Process :=
  let bindings := variablesOf world.environment
  { files := world.files
    busy := world.busy
    directory := directory
    directoryPath := []
    bindings := bindings
    exported := bindings.map Prod.fst
    fixed := []
    shadowed := []
    calls := 0
    functions := []
    documents := #[]
    aliases := []
    name := []
    arguments := []
    optionIndex := 1
    optionOffset := none
    channels := [(0, .opened 0), (1, .stream .stdout), (2, .stream .stderr)]
    opened := [.pipe [] []]
    transcript := []
    outputFailed := false
    line := 0
    lineReached := 0
    utility := none
    loops := 0
    isPart := false
    status := 0
    substitutionStatus := 0
    control := .running
    settings := []
    isShowing := false
    guarded := false
    traps := []
    arrived := []
    statusBefore := none
    located := []
    ignored := []
    jobs := []
    latestNumber := none
    isLast := false
    mask := 0o022
    limits := Limit.initial }

/-- The output of a launch and the files after it, or why the program could not be started. -/
def launched (world : World) (launch : Launch) : Except SystemError (Output × FileSystem) := do
  if (launch.name :: launch.arguments).any fun argument => '\x00' ∈ argument then
    throw .nulInArgument
  let directory ← launch.resolveDirectory world
  let process := initialProcess world directory
  let exported := process.environment.map fun (name, value) =>
    bytesOf name ++ bytes "=" ++ value
  let arguments ← Program.start world.files world.busy directory exported launch.program
    launch.name.encode (launch.arguments.map Text.encode)
  let ended := interpret budget arguments process
  return (⟨ended.transcript.bytesOf .stdout, ended.transcript.bytesOf .stderr⟩, ended.files)

/-- Programs that are scripts.  A launch that fails changes no file. -/
def launcher : Launcher :=
  fun world launch =>
    match launched world launch with
    | .error cause => (.error cause, world.files)
    | .ok (output, files) => (.ok output, files)

end Script

end InteractiveShell
