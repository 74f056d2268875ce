import InteractiveShell.Word

/-!
# Redirections

A redirection sends one of a command's two output streams to a file, which is emptied first or
written at its end.  It is written as an operator and a target.  Only a bare word is an operator:
quoting any part of it makes it an argument.
-/

namespace InteractiveShell

/-- The two output streams of a command. -/
inductive Stream where
  | stdout
  | stderr
deriving DecidableEq

/-- How a target that exists already is opened. -/
inductive WriteMode where
  /-- Its content is dropped. -/
  | truncate
  /-- Output is added behind its content. -/
  | append
deriving DecidableEq

/-- A redirection of one stream to a file. -/
structure Redirection where
  stream : Stream
  mode : WriteMode
  target : Text
deriving DecidableEq

/-- The redirection operators. -/
def Redirection.operators : List (Text × Stream × WriteMode) :=
  [(">".toList, .stdout, .truncate), ("1>".toList, .stdout, .truncate),
    (">>".toList, .stdout, .append), ("1>>".toList, .stdout, .append),
    ("2>".toList, .stderr, .truncate), ("2>>".toList, .stderr, .append)]

/-- The stream and mode that a word asks for, if it is an operator. -/
def Word.operator? (word : Word) : Option (Stream × WriteMode) :=
  if word.quoted then none else Redirection.operators.lookup word.text

end InteractiveShell
