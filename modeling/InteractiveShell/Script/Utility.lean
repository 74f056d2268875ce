import InteractiveShell.Script.Utility.Course
import InteractiveShell.Script.Utility.Directory
import InteractiveShell.Script.Utility.Job
import InteractiveShell.Script.Utility.Limit
import InteractiveShell.Script.Utility.Option
import InteractiveShell.Script.Utility.Output
import InteractiveShell.Script.Utility.Signal
import InteractiveShell.Script.Utility.Variable

/-!
# All utilities

The utilities by name: those that need nothing but the state of the script, and those that run
commands or look for them.
-/

namespace InteractiveShell

namespace Script

/-- The utilities by name that need nothing but the state of the script. -/
def utilities : List (String × Utility) :=
  [(":", succeed), ("true", succeed), ("false", fun process _ => process.withStatus 1),
    ("echo", echo), ("printf", printf), ("read", read), ("test", test), ("[", bracketTest),
    ("pwd", pwd), ("cd", cd), ("chdir", cd), ("kill", kill), ("set", set), ("export", exportAll),
    ("readonly", fixAll), ("local", localAll), ("unset", unsetAll), ("shift", shift),
    ("getopts", getopts), ("exit", exit), ("return", leave),
    ("break", leaveLoops .breaking), ("continue", leaveLoops .continuing), ("trap", trap),
    ("wait", wait), ("umask", umask), ("times", times), ("ulimit", ulimit), ("jobs", listJobs),
    ("fg", resumeJob), ("bg", resumeJob), ("alias", setAliases), ("unalias", dropAliases)]

/-- The utilities that run commands or look for them. -/
def commandUtilities : List String :=
  ["eval", "exec", ".", "command", "type", "hash"]

/-- Whether a name is that of a utility. -/
def isUtility (name : String) : Bool :=
  (utilities.lookup name).isSome || commandUtilities.contains name

end Script

end InteractiveShell
