import InteractiveShell.FileSystem.Basic
import InteractiveShell.Text.Utf8

/-!
# How a file is executed

A file that starts with `#!` names the program that interprets it on its first line, with at most
one option; that program is executed in its place, with the option and the file's path before the
other arguments.  The interpreter of command scripts is the only program that runs by itself.

Only the beginning of a file is looked at.  It is read as if zeros followed a short file, and a zero
ends a text, so a line that is not ended takes its meaning from what the beginning holds of it.
-/

namespace InteractiveShell

/-- What the first line of a file says about its execution. -/
structure InterpreterLine where
  program : Text
  option : Option Bytes
deriving DecidableEq

/-- What can be executed. -/
inductive Executable where
  /-- The interpreter of command scripts. -/
  | interpreter
  /-- A file with a content. -/
  | file (content : Bytes)
deriving DecidableEq

/-- The most programs in a row that interpret one another. -/
def interpreterLimit : Nat :=
  5

/-- How many bytes of a file are looked at. -/
def headSize : Nat :=
  256

namespace InterpreterLine

/-- Whether a byte separates the parts of an interpreter line. -/
def isGap (byte : UInt8) : Bool :=
  byte = 0x20 || byte = 0x09

/-- Whether a byte ends the name of a program. -/
def endsName (byte : UInt8) : Bool :=
  isGap byte || byte = 0

/-- Drops gaps at the end. -/
def trimEnd (line : Bytes) : Bytes :=
  (line.reverse.dropWhile isGap).reverse

/-- Reads a line without gaps at its end. -/
def ofLine? (line : Bytes) : Option InterpreterLine :=
  match line.dropWhile isGap with
  | [] => none
  | first :: rest =>
    let program := (first :: rest).takeWhile fun byte => !endsName byte
    let option :=
      match (first :: rest).drop program.length with
      | [] => none
      | separator :: behind =>
        if separator = 0 then none
        else some ((behind.dropWhile isGap).takeWhile fun byte => byte ≠ 0)
    some ⟨Utf8.decode program, option⟩

/-- Reads the rest of a file's beginning behind `#!`.  A line that the beginning does not hold to
its end counts only if it holds the program's name to its end. -/
def ofHead? (head : Bytes) : Option InterpreterLine :=
  let ended := head.takeWhile fun byte => byte ≠ 0x0A && byte ≠ 0
  if head[ended.length]? = some 0x0A then ofLine? (trimEnd ended)
  else if (head.dropWhile isGap).any endsName then ofLine? (trimEnd head.dropLast)
  else none

/-- How a file with a content is executed, if its first line says so. -/
def ofContent? : Bytes → Option InterpreterLine
  | 0x23 :: 0x21 :: rest =>
    let size := headSize - 2
    ofHead? (rest.take size ++ List.replicate (size - rest.length) 0)
  | _ => none

end InterpreterLine

/-- The first number of bytes that neither an argument of a program nor a variable can have. -/
def argumentLimit : Nat :=
  131072

/-- The room for everything that a program is told, and for the references to it. -/
def startRoom : Nat :=
  2097152

/-- The room that a reference takes up. -/
def referenceSize : Nat :=
  8

/-- The room that strings take up, each with a byte that ends it. -/
def roomFor (strings : List Bytes) : Nat :=
  strings.flatten.length + strings.length

namespace Program

/-- Opens the file at a path for execution, unless it is open for writing.  The empty path leads to
a directory, which cannot be executed. -/
def openAt (files : FileSystem) (busy : List NodeId) (current : NodeId) (path : Text) :
    Except SystemError Executable :=
  if path.isEmpty then .error .permissionDenied
  else
    match files.resolve current path with
    | .error cause => .error cause
    | .ok id =>
      match files.node? id with
      | some .interpreter => .ok .interpreter
      | some (.file mode content) =>
        if !FileSystem.canExecute (.file mode content) then .error .permissionDenied
        else if busy.contains id then .error .textBusy
        else .ok (.file content)
      | _ => .error .permissionDenied

/-- The arguments, the name included, with which the interpreter of command scripts runs when an
opened file is executed.  All of them together have to fit into the room there is. -/
def argumentsFor (files : FileSystem) (busy : List NodeId) (current : NodeId) (room : Nat) :
    Nat → Executable → Text → Bytes → List Bytes → Except SystemError (List Bytes)
  | 0, _, _, _, _ => .error .tooManyLinks
  | _ + 1, .interpreter, _, name, arguments => .ok (name :: arguments)
  | fuel + 1, .file content, path, _, arguments =>
    match InterpreterLine.ofContent? content with
    | none => .error .notExecutable
    | some line =>
      let name := line.program.encode
      let added := line.option.toList ++ path.encode :: arguments
      if room < roomFor (name :: added) then .error .tooManyArguments
      else
        match openAt files busy current line.program with
        | .error cause => .error cause
        | .ok opened => argumentsFor files busy current room fuel opened line.program name added

/-- The arguments, the name included, with which the interpreter of command scripts runs when the
file at a path is executed.  The variables are those that the program gets to see. -/
def start (files : FileSystem) (busy : List NodeId) (current : NodeId) (exported : List Bytes)
    (path : Text) (name : Bytes) (arguments : List Bytes) : Except SystemError (List Bytes) :=
  match openAt files busy current path with
  | .error cause => .error cause
  | .ok opened =>
    let told := name :: arguments
    let references := referenceSize * (told.length + exported.length)
    let used := references + roomFor (path.encode :: exported)
    let isTooLong (string : Bytes) : Bool := argumentLimit ≤ string.length
    if (told ++ exported).any isTooLong || startRoom < used + roomFor told then
      .error .tooManyArguments
    else
      argumentsFor files busy current (startRoom - used) (interpreterLimit + 1) opened path name
        arguments

end Program

end InteractiveShell
