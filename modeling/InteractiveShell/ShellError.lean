import InteractiveShell.SystemError

/-!
# Errors of a command line

The causes for which a command line fails, and the message for each.  Such a failure ends the line
and never the session.
-/

namespace InteractiveShell

/-- Why a command line failed. -/
inductive ShellError where
  /-- A redirection operator is the last word. -/
  | missingRedirectTarget (operator : Text)
  /-- A redirection's target cannot be opened. -/
  | redirect (target : Text) (cause : SystemError)
  /-- The argument of `exit` is no 32-bit integer. -/
  | invalidExitCode (argument : Text)
  /-- A program was found but cannot be started. -/
  | spawn (name : Text) (cause : SystemError)
  /-- Output could not be delivered. -/
  | output (cause : SystemError)
deriving DecidableEq

/-- The message for an error. -/
def ShellError.message : ShellError → Text
  | missingRedirectTarget operator => operator ++ ": missing redirection target".toList
  | redirect target cause => target ++ ": ".toList ++ cause.message
  | invalidExitCode argument =>
    "exit: ".toList ++ argument ++ ": numeric argument required".toList
  | spawn name cause => name ++ ": ".toList ++ cause.message
  | output cause => cause.message

end InteractiveShell
