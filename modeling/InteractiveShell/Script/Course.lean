import InteractiveShell.Script.Lookup

/-!
# The course of a script

What the end of a command, a loop or a utility means for what runs behind it.
-/

namespace InteractiveShell

namespace Script

namespace Process

/-- Ends the script after a failure where failures are to end it. -/
def checkStatus (process : Process) : Process :=
  if process.isRunning && process.has .failFast && !process.guarded && process.status ≠ 0 then
    { process with control := .exiting }
  else process

/-- The state behind the body of a loop, and whether the loop goes on. -/
def afterBody (process : Process) : Bool × Process :=
  match process.control with
  | .running => (true, process)
  | .breaking loops =>
    (false, { process with control := if loops ≤ 1 then .running else .breaking (loops - 1) })
  | .continuing loops =>
    if loops ≤ 1 then (true, { process with control := .running })
    else (false, { process with control := .continuing (loops - 1) })
  | _ => (false, process)

/-- The state behind a condition whose failure or success is turned into the other. -/
def negated (process : Process) : Process :=
  if process.isEnding then process else process.succeedIf (process.status ≠ 0)

/-- The script after a utility, which it was before.  The failure of one that is not special does
not end the script. -/
def afterUtility (process earlier : Process) (name : Bytes) (isSpecial : Bool) : Process :=
  let isOver := process.control = .failing || process.control = .exiting
  let checked :=
    if process.outputFailed && !isOver then
      let complained := process.complain (name ++ bytes ": I/O error")
      complained.withStatus (process.status ||| 1)
    else process
  { checked with
    outputFailed := earlier.outputFailed
    utility := earlier.utility
    control :=
      if checked.control = .failing && !isSpecial then .running else checked.control }

/-- A process in which what is made a function's own is given back at the end of a command. -/
def openScope (process : Process) : Process :=
  { process with shadowed := [] :: process.shadowed }

/-- Gives back what was a command's own, which started in an earlier state. -/
def closeScope (process earlier : Process) : Process :=
  let own := if process.isEnding then [] else process.shadowed.head?.getD []
  let restored := own.foldl
    (fun process shadow => if process.isEnding then process else process.giveBack shadow) process
  { restored with shadowed := earlier.shadowed }

/-- The state in which a command gets its redirections and assignments.  One that is not special has
variables of its own then, as a function has. -/
def preparing (process : Process) (invocation : Invocation) : Process :=
  if invocation.words.isEmpty || invocation.isSpecial then process
  else process.openScope

/-- The state before an answer to a signal or to the end of the script. -/
def answering (process : Process) : Process :=
  { process with control := .running, guarded := false, statusBefore := some process.status }

end Process

end Script

end InteractiveShell
