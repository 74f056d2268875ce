import InteractiveShell.Script.Utility.Basic

/-!
# The utilities for the course of a script

The utilities that end a script, a function or a loop, and the one that does nothing.
-/

namespace InteractiveShell

namespace Script

/-- Ends the script, with a status if one is given. -/
def exit (process : Process) (arguments : List Bytes) : Process :=
  match arguments with
  | [] =>
    { process with control := .exiting, status := process.statusBefore.getD process.status }
  | code :: _ =>
    withNumber process code fun status => { process with control := .exiting, status := status }

/-- Leaves a function, with a status if one is given. -/
def leave (process : Process) (arguments : List Bytes) : Process :=
  match arguments with
  | [] => { process with control := .returning }
  | code :: _ =>
    withNumber process code fun status => { process with control := .returning, status := status }

/-- Leaves loops in one way or the other; without loops around, nothing is left. -/
def leaveLoops (control : Nat → Control) (process : Process) (arguments : List Bytes) : Process :=
  let count := arguments.head?.getD (bytes "1")
  withNumber process count fun loops =>
    if loops = 0 then process.abort (illegalNumber count)
    else
      match min loops process.loops with
      | 0 => process.withStatus 0
      | loops => { process with control := control loops, status := 0 }

/-- Does nothing and succeeds. -/
def succeed (process : Process) (_ : List Bytes) : Process :=
  process.withStatus 0

end Script

end InteractiveShell
