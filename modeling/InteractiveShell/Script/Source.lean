import InteractiveShell.Script.Process

/-!
# Sources of scripts

A script is read in portions, and each of them only when a line goes on behind the one before.  So a
script that adds to its own end runs what it added, and what a script on standard input leaves there
is what is behind a portion.
-/

namespace InteractiveShell

namespace Script

/-- Where the text of a script goes on. -/
inductive Source where
  /-- Nowhere: all of it is known. -/
  | known
  /-- In a file, which is open for the script alone. -/
  | file (opened : OpenFile)
  /-- On standard input. -/
  | input

namespace Source

/-- How much of a script is read at once. -/
def portionSize : Nat :=
  8192

/-- Reads the next portion of a script, no longer than a size.  Gives what is behind it, too. -/
def read (size : Nat) (process : Process) : Source → Bytes × Source × Process
  | .known => ([], .known, process)
  | .file opened =>
    let portion := (opened.unread process.files).take size
    (portion, .file (opened.skip process.files portion.length), process)
  | .input =>
    let portion := (process.readable 0).take size
    (portion, .input, process.consume 0 portion.length)

/-- Where a script goes on once it was read, as far as that can be told. -/
def rest : Source → Source
  | .input => .input
  | _ => .known

end Source

end Script

end InteractiveShell
