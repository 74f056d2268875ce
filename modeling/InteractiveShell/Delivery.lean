import InteractiveShell.ShellError
import InteractiveShell.World

/-!
# Delivering a command's output

A command's output is captured first and delivered when the command is done: all of its standard
error, then all of its standard output.  `deliver` says so for any two outlets.  A `Delivery` is
the shell's own pair of outlets: the terminal's streams, one of which may be led to an open file.
-/

namespace InteractiveShell

/-- The captured output of a command. -/
structure Output where
  stdout : Bytes
  stderr : Bytes
deriving DecidableEq

namespace Output

/-- No output. -/
def none : Output :=
  ⟨[], []⟩

/-- A text on standard output. -/
def ofText (text : Text) : Output :=
  ⟨text.encode, []⟩

/-- A line on standard error. -/
def ofError (message : Text) : Output :=
  ⟨[], Text.encode (message ++ ['\n'])⟩

end Output

/-- Delivers standard error to one outlet and then standard output to another.  If the first
delivery fails, the second one does not start. -/
def deliver {σ : Type} (stderr stdout : Outlet σ) (state : σ) (output : Output) :
    Except SystemError Unit × σ :=
  match stderr.writeAll state output.stderr with
  | (.error cause, after) => (.error cause, after)
  | (.ok (), after) => stdout.writeAll after output.stdout

/-- The world during a delivery, with the stream that is led to a file. -/
structure Delivery where
  world : World
  redirected : Option (Stream × Handle)

namespace Delivery

/-- How a stream answers a write: the file that it is led to does, or else the terminal. -/
def outlet (stream : Stream) : Outlet Delivery where
  write delivery bytes :=
    match delivery.redirected with
    | some (source, handle) =>
      if source = stream then
        match delivery.world.files.write handle bytes with
        | .error cause => .error cause
        | .ok (taken, handle, files) =>
          .ok (taken, ⟨{ delivery.world with files := files }, some (source, handle)⟩)
      else
        ((World.outlet stream).write delivery.world bytes).map fun (taken, world) =>
          (taken, { delivery with world := world })
    | none =>
      ((World.outlet stream).write delivery.world bytes).map fun (taken, world) =>
        (taken, { delivery with world := world })

/-- Delivers the output of one command. -/
def send (delivery : Delivery) (output : Output) : Except SystemError Unit × Delivery :=
  deliver (outlet .stderr) (outlet .stdout) delivery output

/-- The world after a delivery, with nothing open. -/
def close (delivery : Delivery) : World :=
  { delivery.world with busy := [] }

end Delivery

/-- Opens a redirection's target, if there is one, for the output of a command. -/
def World.openDelivery (world : World) (redirection? : Option Redirection) :
    Except ShellError Delivery :=
  match redirection? with
  | none => .ok ⟨world, none⟩
  | some redirection =>
    match world.files.openForWriting world.directory redirection.target redirection.mode with
    | .error cause => .error (.redirect redirection.target cause)
    | .ok (handle, files) =>
      .ok ⟨{ world with files := files, busy := [handle.node] },
        some (redirection.stream, handle)⟩

end InteractiveShell
