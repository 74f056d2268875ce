import InteractiveShell.Text.Basic

/-!
# Builtin commands

The commands that the shell runs itself.
-/

namespace InteractiveShell

/-- The commands that the shell runs itself. -/
inductive Builtin where
  | exit
  | echo
  | type
  | pwd
  | cd
deriving DecidableEq

namespace Builtin

/-- All builtin commands, in the order in which completion names them. -/
def all : List Builtin :=
  [exit, echo, type, pwd, cd]

/-- The name of a builtin command. -/
def name : Builtin → Text
  | exit => "exit".toList
  | echo => "echo".toList
  | type => "type".toList
  | pwd => "pwd".toList
  | cd => "cd".toList

/-- The names of all builtin commands. -/
def names : List Text :=
  all.map name

/-- The builtin command of a name. -/
def named? (name : Text) : Option Builtin :=
  all.find? fun builtin => builtin.name = name

@[simp]
theorem named?_name (builtin : Builtin) : named? builtin.name = some builtin := by
  cases builtin <;> rfl

theorem named?_eq_some_iff {name : Text} {builtin : Builtin} :
    named? name = some builtin ↔ builtin.name = name := by
  constructor
  · intro found
    simpa using List.find?_some found
  · rintro rfl
    exact named?_name builtin

end Builtin

end InteractiveShell
