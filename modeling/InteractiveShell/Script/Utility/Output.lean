import InteractiveShell.Script.Condition
import InteractiveShell.Script.Format
import InteractiveShell.Script.Utility.Basic

/-!
# Utilities that write and decide

The utilities that write their arguments, and those that decide a condition.
-/

namespace InteractiveShell

namespace Script

/-- Writes the arguments, their escapes resolved, and ends the line unless told not to. -/
def echo (process : Process) (arguments : List Bytes) : Process :=
  let silent := arguments.head? = some (bytes "-n")
  let shown := if silent then arguments.drop 1 else arguments
  let (text, ended) := unescape ((bytes " ").intercalate shown)
  (process.emit 1 (if silent || ended then text else text ++ bytes "\n")).withStatus 0

/-- Writes its arguments under the control of a format. -/
def printf (process : Process) (arguments : List Bytes) : Process :=
  withOptions "" process arguments fun _ operands =>
    match operands with
    | [] => process.abort (bytes "usage: printf format [arg ...]")
    | format :: arguments =>
      let rendering := render format arguments
      let complained := rendering.complaints.reverse.foldl Process.complain process
      let failed := match rendering.fault with
        | some fault => complained.abort fault
        | none => complained.succeedIf rendering.complaints.isEmpty
      failed.emit 1 rendering.output.reverse.flatten

/-- Decides a condition. -/
def test (process : Process) (words : List Bytes) : Process :=
  match Condition.holds process words with
  | .ok holds => process.succeedIf holds
  | .error fault => process.abort fault

/-- Decides a condition in front of a word that begins with a bracket. -/
def bracketTest (process : Process) (words : List Bytes) : Process :=
  if words.getLast?.bind List.head? = some (ascii ']') then test process words.dropLast
  else process.abort (bytes "missing ]")

end Script

end InteractiveShell
