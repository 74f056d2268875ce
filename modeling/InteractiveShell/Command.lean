import InteractiveShell.Redirection
import InteractiveShell.ShellError

/-!
# Commands

A command is a list of arguments with at most one redirection.  The first operator among the words
of a line and the word behind it make the redirection, whatever that word is; all other words are
arguments, later operators included.  A line without words is the blank command, whose only
argument is the empty text.
-/

namespace InteractiveShell

/-- The arguments of a line and its redirection. -/
structure Command where
  arguments : List Text
  redirection : Option Redirection
deriving DecidableEq

namespace Command

/-- The command of a line without words. -/
def blank : Command :=
  ⟨[[]], none⟩

/-- Whether a command is that of a line without words. -/
def isBlank (command : Command) : Bool :=
  command = blank

/-- Adds an argument in front. -/
def addArgument (argument : Text) (command : Command) : Command :=
  { command with arguments := argument :: command.arguments }

/-- The command made of a list of words, with no argument for the empty list. -/
def collect : List Word → Except ShellError Command
  | [] => .ok ⟨[], none⟩
  | word :: rest =>
    match word.operator? with
    | none => (collect rest).map (addArgument word.text)
    | some (stream, mode) =>
      match rest with
      | [] => .error (.missingRedirectTarget word.text)
      | target :: later => .ok ⟨later.map Word.text, some ⟨stream, mode, target.text⟩⟩

/-- The command made of the words of a line. -/
def ofWords (words : List Word) : Except ShellError Command :=
  if words.isEmpty then .ok blank else collect words

/-- The command that a line denotes. -/
def ofLine (line : Text) : Except ShellError Command :=
  ofWords (splitWords line)

end Command

end InteractiveShell
