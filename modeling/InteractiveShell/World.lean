import InteractiveShell.FileSystem.Writing
import InteractiveShell.Outlet

/-!
# The world of a shell

What a shell can see and change: the files, its working directory, the variables `PATH` and `HOME`,
and the terminal, of which a transcript is kept.  The working directory is a node and not a path, so
it stays the same directory when the path to it is removed.

Standard error always reaches the terminal.  Standard output does so too unless it is connected to
a device.
-/

namespace InteractiveShell

/-- What was written to the terminal, the latest write first. -/
abbrev Transcript := List (Stream × Bytes)

namespace Transcript

/-- The bytes of one stream, in the order of writing. -/
def bytesOf (transcript : Transcript) (stream : Stream) : Bytes :=
  ((transcript.filter fun entry => entry.1 = stream).reverse.map Prod.snd).flatten

/-- The bytes of both streams, in the order of writing. -/
def bytes (transcript : Transcript) : Bytes :=
  (transcript.reverse.map Prod.snd).flatten

end Transcript

/-- The variables that a shell looks at; each may be unset. -/
structure Environment where
  path : Option Text
  home : Option Text
deriving DecidableEq

/-- What standard output is connected to. -/
inductive Connection where
  | terminal
  | device (device : Device)
deriving DecidableEq

/-- The world of a shell. -/
structure World where
  files : FileSystem
  /-- The working directory. -/
  directory : NodeId
  environment : Environment
  output : Connection
  transcript : Transcript
  /-- The files that are open for writing. -/
  busy : List NodeId
deriving DecidableEq

namespace World

/-- The world over some files, at their root, without variables, with nothing written yet and
nothing open. -/
def initial (files : FileSystem) : World :=
  ⟨files, FileSystem.root, ⟨none, none⟩, .terminal, [], []⟩

/-- The absolute path of the working directory, unless it was removed. -/
def directoryPath? (world : World) : Option Text :=
  world.files.pathOf? world.directory

/-- Whether a path leads to something that can be executed. -/
def isExecutable (world : World) (path : Text) : Bool :=
  world.files.isExecutable world.directory path

/-- Moves the working directory along a path. -/
def changeDirectory (world : World) (path : Text) : Except SystemError World :=
  match world.files.resolveDirectory world.directory path with
  | .error cause => .error cause
  | .ok id => .ok { world with directory := id }

/-- Puts bytes on the terminal. -/
def record (world : World) (stream : Stream) (bytes : Bytes) : World :=
  { world with transcript := (stream, bytes) :: world.transcript }

/-- How the shell's own two streams answer a write. -/
def outlet (stream : Stream) : Outlet World where
  write world bytes :=
    match stream, world.output with
    | .stdout, .device device => (device.accept bytes).map fun taken => (taken, world)
    | _, _ => .ok (bytes.length, world.record stream bytes)

/-- Writes a text to standard output. -/
def print (world : World) (text : Text) : Except SystemError Unit × World :=
  (outlet .stdout).writeAll world text.encode

/-- Writes a line to standard error. -/
def report (world : World) (message : Text) : World :=
  world.record .stderr (Text.encode (message ++ ['\n']))

end World

end InteractiveShell
