import InteractiveShell.Builtin
import InteractiveShell.Delivery
import InteractiveShell.SearchPath
import InteractiveShell.Text.Integer

/-!
# Running a command's arguments

The first argument picks what to do: `World.taskFor` decides between a builtin command, the launch
of a program and nothing of that name, and `Task.perform` does it.  How a launched program behaves
is a parameter, the launcher.

A program is started from its absolute path in the directory that holds it, under the name that was
typed.
-/

namespace InteractiveShell

/-- The start of a program. -/
structure Launch where
  /-- The path of the program's file. -/
  program : Text
  /-- The name under which the program runs. -/
  name : Text
  arguments : List Text
  /-- The directory in which the program runs; that of the shell if absent. -/
  directory : Option Text
deriving DecidableEq

/-- How programs behave: what a launch gives, and the files after it. -/
abbrev Launcher := World → Launch → Except SystemError Output × FileSystem

/-- What a shell does after a command. -/
inductive Action where
  | output (output : Output)
  | exit (code : Int)
  | endSession
deriving DecidableEq

/-- What a list of arguments asks for. -/
inductive Task where
  | nothing
  | endSession
  | builtin (command : Builtin) (arguments : List Text)
  | launch (started : Launch)
  | notFound (name : Text)
deriving DecidableEq

namespace World

/-- The launch of a program that was found at a path. -/
def launchOf (world : World) (name : Text) (arguments : List Text) (found : Text) : Launch :=
  let program := (Path.absolute? world.directoryPath? found).getD found
  ⟨program, name, arguments, Path.parent? program⟩

/-- What a list of arguments asks for. -/
def taskFor (world : World) : List Text → Task
  | [] => .nothing
  | [[]] => .endSession
  | name :: arguments =>
    match Builtin.named? name with
    | some builtin => .builtin builtin arguments
    | none =>
      match world.find? name with
      | some found => .launch (world.launchOf name arguments found)
      | none => .notFound name

/-- The directory that `cd` is asked for; nothing if that takes `HOME` and `HOME` is not set. -/
def cdTarget? (world : World) : List Text → Option Text
  | [] => world.environment.home
  | ['~'] :: _ => world.environment.home
  | ('~' :: '/' :: rest) :: _ => world.environment.home.map fun home => home ++ '/' :: rest
  | target :: _ => some target

/-- Changes the working directory. -/
def cd (world : World) (arguments : List Text) : Output × World :=
  match world.cdTarget? arguments with
  | none => (.ofError "cd: HOME not set".toList, world)
  | some target =>
    match world.changeDirectory target with
    | .ok moved => (.none, moved)
    | .error _ =>
      let shown := arguments.head?.getD target
      (.ofError ("cd: ".toList ++ shown ++ ": No such file or directory".toList), world)

/-- Names the working directory. -/
def pwd (world : World) : Output :=
  match world.directoryPath? with
  | some path => .ofText (path ++ ['\n'])
  | none => .ofError ("pwd: ".toList ++ SystemError.noSuchEntry.message)

/-- Says what a name stands for. -/
def type (world : World) : List Text → Output
  | [] => .none
  | name :: _ =>
    match Builtin.named? name with
    | some _ => .ofText (name ++ " is a shell builtin\n".toList)
    | none =>
      match world.find? name with
      | some found => .ofText (name ++ " is ".toList ++ found ++ ['\n'])
      | none => .ofError (name ++ ": not found".toList)

end World

/-- Repeats the arguments. -/
def echo (arguments : List Text) : Output :=
  .ofText ([' '].intercalate arguments ++ ['\n'])

/-- Ends the session with a code, which is zero if none is given. -/
def exit : List Text → Action
  | [] => .exit 0
  | code :: _ =>
    match integer32? code with
    | some value => .exit value
    | none => .output (.ofError (ShellError.invalidExitCode code).message)

/-- Runs a builtin command. -/
def Builtin.run (builtin : Builtin) (world : World) (arguments : List Text) : Action × World :=
  match builtin with
  | .exit => (InteractiveShell.exit arguments, world)
  | .echo => (.output (InteractiveShell.echo arguments), world)
  | .type => (.output (world.type arguments), world)
  | .pwd => (.output world.pwd, world)
  | .cd =>
    let (output, moved) := world.cd arguments
    (.output output, moved)

/-- Starts a program and captures its output. -/
def Launch.run (launch : Launch) (launcher : Launcher) (world : World) : Output × World :=
  let (result, files) := launcher world launch
  match result with
  | .ok output => (output, { world with files := files })
  | .error cause =>
    (.ofError (ShellError.spawn launch.name cause).message, { world with files := files })

/-- Does what a list of arguments asked for. -/
def Task.perform (launcher : Launcher) (world : World) : Task → Action × World
  | .nothing => (.output .none, world)
  | .endSession => (.endSession, world)
  | .builtin command arguments => command.run world arguments
  | .launch started =>
    let (output, after) := started.run launcher world
    (.output output, after)
  | .notFound name => (.output (.ofError (name ++ ": command not found".toList)), world)

/-- Runs a command's arguments. -/
def dispatch (launcher : Launcher) (world : World) (arguments : List Text) : Action × World :=
  (world.taskFor arguments).perform launcher world

end InteractiveShell
