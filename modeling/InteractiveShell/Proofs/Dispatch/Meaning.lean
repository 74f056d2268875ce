import InteractiveShell.Dispatch
import Mathlib.Tactic.ByContra

/-!
# What a name stands for

A name stands for a builtin command, or else for the program that is found under it, or else for
nothing.  `World.meaning` says for which.  Running a name and asking `type` about it are separate
paths through the shell, and each of them is a function of the meaning: `dispatch_cons` and
`World.type_cons` say of which.
-/

namespace InteractiveShell

/-- What a name can stand for. -/
inductive Meaning where
  | builtin (command : Builtin)
  /-- A program that was found at a path. -/
  | program (path : Text)
  | nothing

namespace World

/-- What a name stands for.  A builtin command hides every program of its name. -/
def meaning (world : World) (name : Text) : Meaning :=
  match Builtin.named? name with
  | some command => .builtin command
  | none =>
    match world.find? name with
    | some path => .program path
    | none => .nothing

/-- What `type` says of a name. -/
def account (name : Text) : Meaning → Output
  | .builtin _ => .ofText (name ++ " is a shell builtin\n".toList)
  | .program path => .ofText (name ++ " is ".toList ++ path ++ ['\n'])
  | .nothing => .ofError (name ++ ": not found".toList)

theorem type_cons (world : World) (name : Text) (ignored : List Text) :
    world.type (name :: ignored) = account name (world.meaning name) := by
  rw [type, meaning]
  cases Builtin.named? name with
  | some command => rfl
  | none => cases world.find? name <;> rfl

theorem name_eq_of_meaning_eq_builtin
    {world : World} {name : Text} {command : Builtin}
    (means : world.meaning name = .builtin command) :
    command.name = name := by
  unfold meaning at means
  split at means
  · rename_i found
    cases means
    exact Builtin.named?_eq_some_iff.mp found
  · split at means <;> cases means

@[simp]
theorem meaning_name (world : World) (command : Builtin) :
    world.meaning command.name = .builtin command := by
  rw [meaning, Builtin.named?_name]

theorem meaning_eq_program_iff
    {world : World} {name path : Text} :
    world.meaning name = .program path ↔
      Builtin.named? name = none ∧ world.find? name = some path := by
  rw [meaning]
  cases Builtin.named? name with
  | some command => simp
  | none => cases world.find? name <;> simp

theorem meaning_eq_nothing_iff {world : World} {name : Text} :
    world.meaning name = .nothing ↔
      Builtin.named? name = none ∧ world.find? name = none := by
  rw [meaning]
  cases Builtin.named? name with
  | some command => simp
  | none => cases world.find? name <;> simp

end World

/-- Programs that give no output and leave all files alone. -/
def Launcher.quiet : Launcher := fun world _ =>
  (.ok .none, world.files)

/-- The action of a program that was started, and the world after it. -/
def Launch.act (launch : Launch) (launcher : Launcher) (world : World) :
    Action × World :=
  (.output (launch.run launcher world).1, (launch.run launcher world).2)

/-- Running a name does what the name stands for. -/
theorem dispatch_cons
    (launcher : Launcher) (world : World) {name : Text}
    {arguments : List Text} (present : name :: arguments ≠ [[]]) :
    dispatch launcher world (name :: arguments) =
      match world.meaning name with
      | .builtin command => command.run world arguments
      | .program path =>
          (world.launchOf name arguments path).act launcher world
      | .nothing =>
          (.output (.ofError (name ++ ": command not found".toList)),
            world) := by
  have asked :
      world.taskFor (name :: arguments) =
        match world.meaning name with
        | .builtin command => .builtin command arguments
        | .program path => .launch (world.launchOf name arguments path)
        | .nothing => .notFound name := by
    rw [World.taskFor, World.meaning]
    · cases Builtin.named? name with
      | some command => rfl
      | none => cases world.find? name <;> rfl
    · rintro rfl rfl
      exact absurd rfl present
  rw [dispatch, asked]
  cases world.meaning name <;> rfl

/-! ### Actions that end a session -/

theorem Builtin.run_eq_exit_iff
    {command : Builtin} {world : World} {arguments : List Text}
    {code : Int} :
    (command.run world arguments).1 = .exit code ↔
      command = .exit ∧ InteractiveShell.exit arguments = .exit code := by
  cases command <;> simp [run]

theorem Builtin.run_ne_endSession
    (command : Builtin) (world : World) (arguments : List Text) :
    (command.run world arguments).1 ≠ .endSession := by
  cases command with
  | exit =>
      rw [run]
      unfold InteractiveShell.exit
      split
      · exact nofun
      · split <;> exact nofun
  | echo | type | pwd | cd => exact nofun

/-- Only `exit` gives a code. -/
theorem dispatch_eq_exit_iff
    (launcher : Launcher) (world : World) (arguments : List Text)
    (code : Int) :
    (dispatch launcher world arguments).1 = .exit code ↔
      ∃ rest, arguments = Builtin.exit.name :: rest ∧
        InteractiveShell.exit rest = .exit code := by
  constructor
  · intro exits
    cases arguments with
    | nil => cases exits
    | cons name rest =>
        by_cases absent : name :: rest = [[]]
        · rw [absent] at exits
          cases exits
        · rw [dispatch_cons launcher world absent] at exits
          split at exits
          · rename_i command means
            rcases Builtin.run_eq_exit_iff.mp exits with ⟨rfl, asked⟩
            rw [← World.name_eq_of_meaning_eq_builtin means]
            exact ⟨rest, rfl, asked⟩
          · cases exits
          · cases exits
  · rintro ⟨rest, rfl, asked⟩
    rw [dispatch_cons launcher world (by simp [Builtin.name]),
      World.meaning_name]
    exact Builtin.run_eq_exit_iff.mpr ⟨rfl, asked⟩

/-- A session is ended without a code only by a single argument that is empty. -/
theorem dispatch_eq_endSession_iff
    (launcher : Launcher) (world : World) (arguments : List Text) :
    (dispatch launcher world arguments).1 = .endSession ↔
      arguments = [[]] := by
  constructor
  · intro ends
    cases arguments with
    | nil => cases ends
    | cons name rest =>
        by_contra present
        rw [dispatch_cons launcher world present] at ends
        split at ends
        · rename_i command means
          exact command.run_ne_endSession world rest ends
        · cases ends
        · cases ends
  · rintro rfl
    rfl

end InteractiveShell
