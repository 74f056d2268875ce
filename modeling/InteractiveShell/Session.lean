import InteractiveShell.Completion
import InteractiveShell.Editor.Cycle
import InteractiveShell.Execution

/-!
# Sessions

A session prompts, lets a line be edited, executes it and starts over.  A listing of candidates
shows the prompt and the buffer again and goes on with the same line.  A line that fails is reported
on standard error and the session goes on.  The session ends with the code of the line that ends it,
or with zero when the input ends or is interrupted.

It always comes to an end, because every edit but the last one takes something off the input, or
else submits what a listing had left in the buffer.
-/

namespace InteractiveShell

/-- What can be chosen for a session. -/
structure Settings where
  prompt : Text
  /-- The names that completion offers besides executables. -/
  names : List Text
deriving DecidableEq

/-- The settings of a shell that was asked for nothing special. -/
def Settings.standard : Settings :=
  ⟨"$ ".toList, Builtin.names⟩

/-- Why a session failed. -/
inductive SessionError where
  /-- The terminal failed while a line was edited. -/
  | reading (cause : SystemError)
  /-- A prompt could not be shown. -/
  | prompting (cause : SystemError)
deriving DecidableEq

/-- The message for an error. -/
def SessionError.message : SessionError → Text
  | reading cause => "reading from terminal: ".toList ++ cause.message
  | prompting cause => cause.message

/-- The end of a session. -/
structure SessionEnd where
  /-- The exit code. -/
  result : Except SessionError Int
  world : World

/-- Executes a submitted line and reports its failure.  Gives the code if the line ends the
session. -/
def settle (launcher : Launcher) (world : World) (line : Text) : Option Int × World :=
  match executeLine launcher world line with
  | (.ok .proceed, after) => (none, after)
  | (.ok (.exit code), after) => (some code, after)
  | (.error error, after) => (none, after.report error.message)

/-- How much a session has still to do: twice the arrivals, and one more for a line that a listing
left in the buffer. -/
def outstanding (seed : Text) (arrivals : List Arrival) : Nat :=
  2 * arrivals.length + if seed.isEmpty then 0 else 1

/-- An edit that another one follows leaves less to do. -/
theorem outstanding_lt {σ : Type} {completer : Completer} {outlet : Outlet σ} {seed : Text}
    {output after : σ} {arrivals unread : List Arrival} {outcome : Outcome} {next : Text}
    (ended : runCycle completer outlet seed output arrivals = ⟨.ok outcome, unread, after⟩)
    (follows : outcome.nextSeed? = some next) :
    outstanding next unread < outstanding seed arrivals := by
  cases arrivals with
  | cons arrival rest =>
    have shorter := unread_runCycle_lt completer outlet seed output
      (List.cons_ne_nil arrival rest)
    rw [ended] at shorter
    simp only [outstanding] at shorter ⊢
    split <;> split <;> omega
  | nil =>
    have nothing : unread = [] :=
      (congrArg CycleEnd.unread ended).symm
    have closed := eq_close_of_runCycle_nil (congrArg CycleEnd.result ended)
    subst nothing closed
    by_cases empty : seed.isEmpty = true
    · simp [Edit.close, Edit.start, empty, Outcome.nextSeed?] at follows
    · simp [Edit.close, Edit.start, empty, Outcome.nextSeed?] at follows
      subst follows
      simp [outstanding, empty]

/-- Edits and executes lines from a seed that is on the terminal already. -/
def converse (settings : Settings) (launcher : Launcher) (seed : Text) (world : World)
    (arrivals : List Arrival) : SessionEnd :=
  match _ : runCycle (world.candidates settings.names) (World.outlet .stdout) seed world
      arrivals with
  | ⟨.error cause, _, after⟩ => ⟨.error (.reading cause), after⟩
  | ⟨.ok .interrupted, _, after⟩ => ⟨.ok 0, after⟩
  | ⟨.ok .endOfInput, _, after⟩ => ⟨.ok 0, after⟩
  | ⟨.ok (.listed buffer), unread, after⟩ =>
    match after.print (newLine ++ settings.prompt ++ buffer) with
    | (.error cause, after) => ⟨.error (.prompting cause), after⟩
    | (.ok (), after) => converse settings launcher buffer after unread
  | ⟨.ok (.submitted line), unread, after⟩ =>
    match settle launcher after line with
    | (some code, after) => ⟨.ok code, after⟩
    | (none, after) =>
      match after.print (Key.carriageReturn :: settings.prompt) with
      | (.error cause, after) => ⟨.error (.prompting cause), after⟩
      | (.ok (), after) => converse settings launcher [] after unread
termination_by outstanding seed arrivals
decreasing_by all_goals exact outstanding_lt (by assumption) rfl

/-- Runs a session over an input. -/
def runSession (settings : Settings) (launcher : Launcher) (world : World)
    (arrivals : List Arrival) : SessionEnd :=
  match world.print (Key.carriageReturn :: settings.prompt) with
  | (.error cause, after) => ⟨.error (.prompting cause), after⟩
  | (.ok (), after) => converse settings launcher [] after arrivals

/-- The status that the system keeps of an exit code: its low eight bits. -/
def exitStatus (code : Int) : Nat :=
  (code % 256).toNat

/-- Runs the shell as a program: the status, and the world in which a failure was reported. -/
def runShell (launcher : Launcher) (world : World) (arrivals : List Arrival) : Nat × World :=
  match runSession .standard launcher world arrivals with
  | ⟨.ok code, after⟩ => (exitStatus code, after)
  | ⟨.error error, after⟩ => (1, after.report ("Error: ".toList ++ error.message))

end InteractiveShell
