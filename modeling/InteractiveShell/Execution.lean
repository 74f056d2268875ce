import InteractiveShell.Command
import InteractiveShell.Dispatch

/-!
# Executing a line

A line goes through four stages: it is read as a command, the target of its redirection is opened,
its arguments are run and their output is delivered.  A stage that fails ends the line; the later
ones do not take place.  A blank line ends the session before anything is opened, and a line that
ends the session delivers no output.
-/

namespace InteractiveShell

/-- Whether the session goes on after a line. -/
inductive Flow where
  | proceed
  | exit (code : Int)
deriving DecidableEq

/-- Runs a command's arguments once the target of its redirection is open. -/
def Delivery.execute (delivery : Delivery) (launcher : Launcher) (arguments : List Text) :
    Except ShellError Flow × World :=
  let (action, world) := dispatch launcher delivery.world arguments
  let dispatched := { delivery with world := world }
  match action with
  | .exit code => (.ok (.exit code), dispatched.close)
  | .endSession => (.ok (.exit 0), dispatched.close)
  | .output output =>
    match dispatched.send output with
    | (.ok (), sent) => (.ok .proceed, sent.close)
    | (.error cause, sent) => (.error (.output cause), sent.close)

/-- Executes a command. -/
def Command.execute (command : Command) (launcher : Launcher) (world : World) :
    Except ShellError Flow × World :=
  if command.isBlank then
    (.ok (.exit 0), world)
  else
    match world.openDelivery command.redirection with
    | .error error => (.error error, world)
    | .ok delivery => delivery.execute launcher command.arguments

/-- Executes a line. -/
def executeLine (launcher : Launcher) (world : World) (line : Text) :
    Except ShellError Flow × World :=
  match Command.ofLine line with
  | .error error => (.error error, world)
  | .ok command => command.execute launcher world

end InteractiveShell
