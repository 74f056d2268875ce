import InteractiveShell.Text.Basic

/-!
# Errors of the system

The causes for which an operation on files, streams or programs fails.  Each cause that the
operating system numbers is shown with its number.
-/

namespace InteractiveShell

/-- Why an operation on files, streams or programs failed. -/
inductive SystemError where
  | noSuchEntry
  | tooManyArguments
  | notExecutable
  | permissionDenied
  | notDirectory
  | isDirectory
  | textBusy
  | noSpace
  | brokenPipe
  | nameTooLong
  | tooManyLinks
  | timedOut
  /-- A path that contains the character NUL names nothing. -/
  | nulInPath
  /-- A program's argument cannot contain the character NUL. -/
  | nulInArgument
  /-- A destination took no byte of a write and gave no reason. -/
  | nothingTaken
deriving DecidableEq

namespace SystemError

/-- The system's number for a cause. -/
def number? : SystemError → Option Nat
  | noSuchEntry => some 2
  | tooManyArguments => some 7
  | notExecutable => some 8
  | permissionDenied => some 13
  | notDirectory => some 20
  | isDirectory => some 21
  | textBusy => some 26
  | noSpace => some 28
  | brokenPipe => some 32
  | nameTooLong => some 36
  | tooManyLinks => some 40
  | timedOut => some 110
  | nulInPath | nulInArgument | nothingTaken => none

/-- A cause in words. -/
def description : SystemError → String
  | noSuchEntry => "No such file or directory"
  | tooManyArguments => "Argument list too long"
  | notExecutable => "Exec format error"
  | permissionDenied => "Permission denied"
  | notDirectory => "Not a directory"
  | isDirectory => "Is a directory"
  | textBusy => "Text file busy"
  | noSpace => "No space left on device"
  | brokenPipe => "Broken pipe"
  | nameTooLong => "File name too long"
  | tooManyLinks => "Too many levels of symbolic links"
  | timedOut => "Connection timed out"
  | nulInPath => "file name contained an unexpected NUL byte"
  | nulInArgument => "nul byte found in provided data"
  | nothingTaken => "failed to write whole buffer"

/-- A cause as messages show it: in words, and with its number if it has one. -/
def message (cause : SystemError) : Text :=
  match cause.number? with
  | some number =>
    cause.description.toList ++ " (os error ".toList ++ (Nat.toDigits 10 number) ++ ")".toList
  | none => cause.description.toList

end SystemError

end InteractiveShell
