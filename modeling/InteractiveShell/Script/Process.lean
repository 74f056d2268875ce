import InteractiveShell.Script.Job
import InteractiveShell.Script.Limit
import InteractiveShell.Script.Reader.Basic
import InteractiveShell.Script.Setting
import InteractiveShell.World

/-!
# The state of a running script

A script runs as a process of its own: it has its own working directory, variables, arguments and
descriptors, and shares the files and whatever is open with everyone else.  What it writes to its
two output streams is captured in a transcript.

A process that a script starts takes over its state.  `Process.fork` says what it does not take
over, and `Process.resume` what the script sees of it afterwards.
-/

namespace InteractiveShell

namespace Script

/-- What an open file can be used for. -/
inductive Access where
  | reading
  | writing
  | both
deriving DecidableEq

/-- What is open in a process or in those around it. -/
inductive OpenFile where
  | file (handle : Handle) (access : Access)
  /-- Bytes on their way from one process to another: those to be read next, and the writes behind
  them, the latest one first. -/
  | pipe (unread : Bytes) (written : List Bytes)
deriving DecidableEq

/-- What a descriptor of a script is connected to. -/
inductive Channel where
  | stream (stream : Stream)
  /-- What is open, by its number. -/
  | opened (number : Nat)
deriving DecidableEq

/-- Why a script does not go on with the next statement. -/
inductive Control where
  | running
  | exiting
  /-- Ends the script because of an error. -/
  | failing
  /-- A signal ended the script. -/
  | killed (signal : Nat)
  | returning
  /-- Leaves a number of enclosing loops. -/
  | breaking (loops : Nat)
  /-- Leaves all but the last of a number of enclosing loops and goes on with that one. -/
  | continuing (loops : Nat)
deriving DecidableEq

/-- What a function keeps to itself, with what that is outside. -/
inductive Shadow where
  /-- A variable, with its value if it has one, and whether other programs see it and whether it
  keeps its value. -/
  | binding (name : Text) (value : Option Bytes) (isExported isFixed : Bool)
  | settings (settings : List Setting)

/-- The state of a running script. -/
structure Process where
  files : FileSystem
  /-- The files that others have open for writing. -/
  busy : List NodeId
  directory : NodeId
  /-- The path under which the working directory was reached. -/
  directoryPath : Text
  bindings : List (Text × Bytes)
  /-- The variables that other programs get to see. -/
  exported : List Text
  /-- The variables that keep their values. -/
  fixed : List Text
  /-- For each running function and command with something of its own, what that is, the latest
  first. -/
  shadowed : List (List Shadow)
  /-- How many functions are running within each other. -/
  calls : Nat
  functions : List (Text × Statement)
  /-- What stands in the script for redirections, by number. -/
  documents : Array Phrase
  aliases : Aliases
  /-- The name under which the script runs. -/
  name : Bytes
  arguments : List Bytes
  /-- The argument, counted from one, from which options are read next. -/
  optionIndex : Nat
  /-- How far the options in the argument before that were read, if it has more of them. -/
  optionOffset : Option Nat
  channels : List (Nat × Channel)
  opened : List OpenFile
  transcript : Transcript
  /-- Whether some output could not be written. -/
  outputFailed : Bool
  /-- The line of the script on which the running command starts. -/
  line : Nat
  /-- The line up to which the script was read. -/
  lineReached : Nat
  /-- The utility that is running. -/
  utility : Option Bytes
  /-- How many loops enclose the running command, within its function. -/
  loops : Nat
  /-- Whether the process was started by a script as a part of it. -/
  isPart : Bool
  /-- The status of the last command. -/
  status : Nat
  /-- The status of the last substitution in the running command. -/
  substitutionStatus : Nat
  control : Control
  settings : List Setting
  /-- Whether a command is being shown, so that those that this takes are not. -/
  isShowing : Bool
  /-- Whether a failure is being looked at and so ends nothing. -/
  guarded : Bool
  /-- What is run on the arrival of a signal, zero standing for the end of the script. -/
  traps : List (Nat × Bytes)
  /-- The signals that arrived and were not yet answered. -/
  arrived : List Nat
  /-- The status that was there when the running answer to a signal started. -/
  statusBefore : Option Nat
  /-- The names of the programs that were looked for and found. -/
  located : List Text
  /-- The signals that reach nothing, whatever is to be run on their arrival. -/
  ignored : List Nat
  /-- What ran behind the script, the latest one first. -/
  jobs : List Job
  /-- The number of the last process that ran behind the script. -/
  latestNumber : Option Nat
  /-- Whether the running command is the last one of its process, so that a program takes the place
  of that. -/
  isLast : Bool
  /-- The access that new files do not grant. -/
  mask : Nat
  limits : List Limit

/-- The bytes of a text in a script's own messages. -/
def bytes (text : String) : Bytes :=
  Text.encode text.toList

/-- The complaint about what is no number. -/
def illegalNumber (text : Bytes) : Bytes :=
  bytes "Illegal number: " ++ text

/-- Adds an entry to a list, in the place of the one of the same key. -/
def update {α : Type} (entries : List (Text × α)) (key : Text) (value : α) : List (Text × α) :=
  (key, value) :: entries.filter fun entry => entry.1 ≠ key

/-- The number by which a script knows its own process. -/
def ownNumber : Nat :=
  1

namespace OpenFile

/-- The bytes that can be read. -/
def unread (files : FileSystem) : OpenFile → Bytes
  | file handle access =>
    match files.node? handle.node with
    | some (.file _ content) =>
      if access = .writing then [] else content.drop (handle.position.getD content.length)
    | _ => []
  | pipe unread [] => unread
  | pipe unread written => unread ++ written.reverse.flatten

/-- What is open after a number of bytes were read. -/
def skip (files : FileSystem) (count : Nat) : OpenFile → OpenFile
  | file handle access => file { handle with position := handle.position.map (· + count) } access
  | pipe unread written => pipe ((pipe unread written).unread files |>.drop count) []

end OpenFile

namespace Process

def isRunning (process : Process) : Bool :=
  process.control = .running

/-- Whether the script ends. -/
def isEnding (process : Process) : Bool :=
  match process.control with
  | .exiting | .failing | .killed _ => true
  | _ => false

def has (process : Process) (setting : Setting) : Bool :=
  process.settings.contains setting

/-- Chooses a setting or drops it. -/
def choose (process : Process) (setting : Setting) (wanted : Bool) : Process :=
  { process with settings := Setting.choose process.settings setting wanted }

def withStatus (process : Process) (status : Nat) : Process :=
  { process with status := status }

/-- Ends a command with success if a condition holds, and with failure otherwise. -/
def succeedIf (process : Process) (condition : Bool) : Process :=
  process.withStatus (if condition then 0 else 1)

/-! ### Descriptors -/

/-- What a descriptor has open. -/
def openAt? (process : Process) (descriptor : Nat) : Option (Nat × OpenFile) :=
  match process.channels.lookup descriptor with
  | some (.opened number) => process.opened[number]?.map fun file => (number, file)
  | _ => none

/-- Writes to a descriptor; nothing if that fails. -/
def write? (process : Process) (descriptor : Nat) (bytes : Bytes) : Option Process :=
  match process.channels.lookup descriptor with
  | none => none
  | some (.stream stream) =>
    some { process with transcript := (stream, bytes) :: process.transcript }
  | some (.opened number) =>
    match process.opened[number]? with
    | some (.file _ .reading) => none
    | some (.file handle access) =>
      match process.files.write handle bytes with
      | .error _ => none
      | .ok (_, handle, files) =>
        let after := process.opened.set number (.file handle access)
        some { process with files := files, opened := after }
    | some (.pipe unread written) =>
      some { process with opened := process.opened.set number (.pipe unread (bytes :: written)) }
    | none => none

/-- Writes to a descriptor and keeps in mind whether that failed. -/
def emit (process : Process) (descriptor : Nat) (bytes : Bytes) : Process :=
  if bytes.isEmpty then process
  else (process.write? descriptor bytes).getD { process with outputFailed := true }

/-- The bytes that can be read from a descriptor. -/
def readable (process : Process) (descriptor : Nat) : Bytes :=
  ((process.openAt? descriptor).map fun (_, file) => file.unread process.files).getD []

/-- Takes a number of bytes off what can be read from a descriptor. -/
def consume (process : Process) (descriptor count : Nat) : Process :=
  match process.openAt? descriptor with
  | some (number, file) =>
    { process with opened := process.opened.set number (file.skip process.files count) }
  | none => process

/-- Connects a descriptor to a channel. -/
def connect (process : Process) (descriptor : Nat) (channel : Channel) : Process :=
  { process with
    channels := (descriptor, channel) ::
      process.channels.filter fun entry => entry.1 ≠ descriptor }

/-- Closes a descriptor. -/
def disconnect (process : Process) (descriptor : Nat) : Process :=
  { process with channels := process.channels.filter fun entry => entry.1 ≠ descriptor }

/-- Connects a descriptor to something that is opened for it. -/
def connectTo (process : Process) (descriptor : Nat) (file : OpenFile) : Process :=
  { process with opened := process.opened ++ [file] }.connect descriptor
    (.opened process.opened.length)

/-- Connects descriptors as they were before. -/
def reconnect (process : Process) (earlier : List (Nat × Channel)) (descriptors : List Nat) :
    Process :=
  descriptors.foldl
    (fun process descriptor =>
      match earlier.lookup descriptor with
      | some channel => process.connect descriptor channel
      | none => process.disconnect descriptor)
    process

/-- The files that the process or someone else has open for writing. -/
def writtenFiles (process : Process) : List NodeId :=
  process.busy ++ process.channels.filterMap fun entry =>
    match process.openAt? entry.1 with
    | some (_, .file handle access) => if access = .reading then none else some handle.node
    | _ => none

/-! ### Complaints -/

/-- A complaint in the name of the script and with the line. -/
def complaint (process : Process) (message : Bytes) : Bytes :=
  let utility := (process.utility.map fun name => name ++ bytes ": ").getD []
  process.name ++ bytes ": " ++ decimal process.line ++ bytes ": " ++ utility ++ message ++
    bytes "\n"

/-- Complains on standard error. -/
def complain (process : Process) (message : Bytes) : Process :=
  (process.write? 2 (process.complaint message)).getD process

/-- Complains and ends the command with a status. -/
def fail (process : Process) (status : Nat) (message : Bytes) : Process :=
  (process.complain message).withStatus status

/-- Complains and ends the script. -/
def abort (process : Process) (message : Bytes) : Process :=
  { process.complain message with control := .failing, status := 2 }

/-! ### Variables -/

/-- Reads options from an argument on. -/
def startOptions (process : Process) (index : Nat) : Process :=
  { process with optionIndex := index, optionOffset := none }

/-- The process after a variable got another value. -/
def afterChange (process : Process) (name : Text) : Process :=
  if name = "OPTIND".toList then
    let index := (process.bindings.lookup name).bind count?
    process.startOptions (max (index.getD 0) 1)
  else if name = "PATH".toList then { process with located := [] }
  else process

/-- Why a variable cannot get a value, that of one that goes away being empty. -/
def refusal? (process : Process) (name : Text) (value : Bytes) : Option Bytes :=
  if process.fixed.contains name then some (bytesOf name ++ bytes ": is read only")
  else if name = "OPTIND".toList && (count? value).isNone then some (illegalNumber value)
  else none

/-- Gives a variable a value, if it can get it. -/
def assign (process : Process) (name : Text) (value : Bytes) : Process :=
  match process.refusal? name value with
  | some refusal => process.abort refusal
  | none =>
    let isExported := process.has .exportAll && !process.exported.contains name
    { process with
      bindings := update process.bindings name value
      exported := if isExported then name :: process.exported else process.exported
      : Process }.afterChange name

/-- Ends the script because of what is no name. -/
def refuseName (process : Process) (name : Text) : Process :=
  process.abort (bytesOf name ++ bytes ": bad variable name")

/-- Gives a value to the variable that a text names, up to an equals sign. -/
def assignTo (process : Process) (text : Text) (value : Bytes) : Process :=
  let name := text.takeWhile fun character => character ≠ '='
  if isName name then process.assign name value else process.refuseName name

/-- Gives other programs a variable to see. -/
def expose (process : Process) (name : Text) : Process :=
  if process.exported.contains name then process
  else { process with exported := name :: process.exported }

/-- Gives a variable back what it was at an earlier time. -/
def restore (process earlier : Process) (name : Text) : Process :=
  let others := process.bindings.filter fun entry => entry.1 ≠ name
  let bindings := ((earlier.bindings.lookup name).map fun value => (name, value)).toList ++ others
  let exported := process.exported.filter fun other => other ≠ name
  { process with
    bindings := bindings
    exported := if earlier.exported.contains name then name :: exported else exported
    : Process }.afterChange name

/-- A variable as it is. -/
def shadowOf (process : Process) (name : Text) : Shadow :=
  .binding name (process.bindings.lookup name) (process.exported.contains name)
    (process.fixed.contains name)

/-- Makes something the running function's own. -/
def shadow (process : Process) (outside : Shadow) : Process :=
  match process.shadowed with
  | own :: others => { process with shadowed := (outside :: own) :: others }
  | [] => process

/-- Gives back what was a function's own.  A variable that did not exist goes away. -/
def giveBack (process : Process) : Shadow → Process
  | .settings settings => { process with settings := settings }
  | .binding name value? isExported isFixed =>
    if value?.isNone && !isName name then process.refuseName name
    else
      let others := process.bindings.filter fun entry => entry.1 ≠ name
      let exported := process.exported.filter fun other => other ≠ name
      let fixed := process.fixed.filter fun other => other ≠ name
      let isNew := value?.isNone && !isExported && !isFixed
      { process with
        bindings := (value?.map fun value => (name, value)).toList ++ others
        exported :=
          if isExported || (isNew && process.has .exportAll) then name :: exported else exported
        fixed := if isFixed then name :: fixed else fixed
        : Process }.afterChange name

/-- Gives the script its arguments. -/
def setArguments (process : Process) (arguments : List Bytes) : Process :=
  { process with arguments := arguments }.startOptions 1

/-- Takes the value of a variable away. -/
def forget (process : Process) (name : Text) : Process :=
  match process.refusal? name [] with
  | some refusal => process.abort refusal
  | none =>
    { process with
      bindings := process.bindings.filter fun entry => entry.1 ≠ name
      exported := process.exported.filter fun other => other ≠ name }

/-- The bytes that separate fields. -/
def separators (process : Process) : Bytes :=
  (process.bindings.lookup "IFS".toList).getD (bytes " \t\n")

/-- The value of a named parameter. -/
def value? (process : Process) (name : Text) : Option Bytes :=
  match name with
  | ['#'] => some (decimal process.arguments.length)
  | ['?'] => some (decimal process.status)
  | ['$'] => some (decimal ownNumber)
  | ['-'] => some (bytesOf (Setting.letters process.settings))
  | ['!'] => process.latestNumber.map decimal
  | ['@'] | ['*'] => some ((process.separators.take 1).intercalate process.arguments)
  | _ =>
    if name.all Char.isDigit then
      match digitsIn 10 (bytesOf name) with
      | 0 => some process.name
      | number + 1 => process.arguments[number]?
    else
      process.bindings.lookup name

/-! ### Processes of its own -/

/-- A process that starts as a part of the script.  What it replaces stays open in the script. -/
def fork (process : Process) : Process :=
  { process with
    busy := process.writtenFiles
    isPart := true
    traps := process.traps.filter fun trap => trap.2.isEmpty
    statusBefore := none
    jobs := []
    isLast := false }

/-- What is to be run on the arrival of a signal. -/
def trap? (process : Process) (signal : Nat) : Option Bytes :=
  process.traps.lookup signal

/-- What the arrival of a signal leads to; nothing if the signal strikes. -/
def answerTo? (process : Process) (signal : Nat) : Option Bytes :=
  if Signal.inevitable.contains signal then none
  else if process.ignored.contains signal then some []
  else process.trap? signal

/-- The signal that ended a process. -/
def signal? (process : Process) : Option Nat :=
  if let .killed signal := process.control then some signal else none

/-- Tells that a signal ended another process. -/
def tell (process : Process) (signal? : Option Nat) : Process :=
  let told := signal?.bind fun signal =>
    if Signal.quiet.contains signal then none
    else process.write? 2 (bytes (Signal.description signal ++ "\n"))
  told.getD process

/-- The script after processes that it started have ended, the last of them as a certain one. -/
def resumeBeside (process inner : Process) : Process :=
  let awaitsEnd := (process.answerTo? Signal.ofChild).any fun action => !action.isEmpty
  { process with
    files := inner.files
    opened := inner.opened
    transcript := inner.transcript
    arrived := if awaitsEnd then process.arrived ++ [Signal.ofChild] else process.arrived
    jobs := (Job.vacate process.jobs).2
    status := inner.status % 256 }

/-- The script after a process that it started has ended.  A signal that ended it is told. -/
def resume (process inner : Process) : Process :=
  (process.resumeBeside inner).tell inner.signal?

/-- The script after a part of it has ended, which leaves the signals that arrived unanswered. -/
def resumePart (process inner : Process) : Process :=
  { process with arrived := inner.arrived }.resume inner

/-- A process after a program took its place and ended. -/
def replacedBy (process program : Process) : Process :=
  { process with
    files := program.files
    opened := program.opened
    transcript := program.transcript
    status := program.status
    traps := []
    control := if let .killed signal := program.control then .killed signal else .exiting }

/-- Forgets what was opened since an earlier time, unless it is still in use. -/
def closeSince (process earlier : Process) : Process :=
  let count := earlier.opened.length
  let isUsed := process.channels.any fun
    | (_, .opened number) => count ≤ number
    | _ => false
  if isUsed then process else { process with opened := process.opened.take count }

end Process

end Script

end InteractiveShell
