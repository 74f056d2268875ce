import InteractiveShell.Script.Name

/-!
# The statements of a script

Simple commands with assignments and redirections, pipelines, conditional chains, loops, selections,
groups and functions.

The words of a statement are phrases: their quotes are resolved, and their expansions are found but
not carried out.  A phrase can hold statements in turn, whose output it stands for.
-/

namespace InteractiveShell

namespace Script

/-- What is done where a parameter has no value. -/
inductive Absence where
  /-- The operand takes its place. -/
  | useOperand
  /-- The operand becomes its value. -/
  | assignOperand
  /-- The script ends with the operand as its complaint. -/
  | complain
  /-- Nothing; the operand takes the place of a value that is there. -/
  | useOperandOtherwise
deriving DecidableEq

/-- An end of a value. -/
inductive ValueEnd where
  | front
  | back
deriving DecidableEq

/-- What a redirection in a script does with its descriptor. -/
inductive RedirectKind where
  /-- It reads from a file. -/
  | input
  /-- It writes to a file.  `anyway` tells whether it does so to one that is to be kept, too. -/
  | output (mode : WriteMode) (anyway : Bool)
  /-- It reads from a file and writes to it. -/
  | both
  /-- It becomes another name of a descriptor. -/
  | duplicate
  /-- It reads what stands in the script. -/
  | document
deriving DecidableEq

mutual

/-- A part of a phrase.  A quoted part is neither split into fields nor read as a pattern. -/
inductive Piece where
  | literal (text : Text) (quoted : Bool)
  /-- The value of a parameter. -/
  | parameter (name : Text) (treatment : Treatment) (quoted : Bool)
  /-- The output of statements. -/
  | substitution (statements : List Statement) (quoted : Bool)
  /-- The value of an expression. -/
  | arithmetic (expression : List Piece) (quoted : Bool)
  /-- What stands in the script behind the line of a redirection, by its number. -/
  | document (number : Nat)

/-- What is done with the value of a parameter. -/
inductive Treatment where
  | plain
  | length
  /-- `orEmpty` tells whether an empty value counts as none. -/
  | ifAbsent (absence : Absence) (orEmpty : Bool) (operand : List Piece)
  /-- What the operand matches as a pattern is taken off an end, as much or as little as there
  is. -/
  | trim (side : ValueEnd) (asMuch : Bool) (operand : List Piece)
  /-- What is written is no treatment. -/
  | unknown

/-- A redirection in a script: of a descriptor to what a phrase denotes. -/
inductive Redirect where
  | mk (descriptor : Nat) (kind : RedirectKind) (target : List Piece)

/-- A statement of a script. -/
inductive Statement where
  /-- A command, or assignments alone; `line` is where its first word ends. -/
  | simple (line : Nat) (assignments : List (Text × List Piece)) (phrases : List (List Piece))
      (redirects : List Redirect)
  | sequence (statements : List Statement)
  | pipeline (stages : List Statement)
  | negation (negated : Statement)
  /-- The second statement runs if the first one succeeds. -/
  | both (first second : Statement)
  /-- The second statement runs if the first one fails. -/
  | either (first second : Statement)
  | choice (condition consequent alternative : Statement)
  /-- The body runs for each item, or for each argument if no items are given. -/
  | each (line : Nat) (name : Text) (items : Option (List (List Piece))) (body : Statement)
  /-- The body runs while the condition succeeds, or as long as it fails. -/
  | loop (untilSuccess : Bool) (condition body : Statement)
  | selection (line : Nat) (subject : List Piece)
      (branches : List (List (List Piece) × Statement))
  | subshell (line : Nat) (body : Statement)
  /-- The body runs as a process of its own that is not waited for. -/
  | background (body : Statement)
  | redirected (line : Nat) (body : Statement) (redirects : List Redirect)
  | definition (name : Text) (body : Statement)

end

/-- A word of a script. -/
abbrev Phrase := List Piece

namespace Redirect

/-- The descriptor that is redirected. -/
def descriptor : Redirect → Nat
  | mk descriptor _ _ => descriptor

/-- What is done with the descriptor. -/
def kind : Redirect → RedirectKind
  | mk _ kind _ => kind

/-- What denotes where the descriptor leads. -/
def target : Redirect → Phrase
  | mk _ _ target => target

end Redirect

/-- The subshell that a statement is alone.  A group of one statement is that statement. -/
def Statement.subshell? : Statement → Option (Nat × Statement)
  | .subshell line body | .redirected _ (.subshell line body) _ => some (line, body)
  | .sequence [only] => only.subshell?
  | _ => none

/-- How many processes a statement that runs on its own consists of. -/
def Statement.size : Statement → Nat
  | .pipeline stages => stages.length
  | .sequence [only] => only.size
  | _ => 1

/-- Whether a statement is a simple command. -/
def Statement.isSimple : Statement → Bool
  | .simple _ _ _ _ => true
  | .sequence [only] => only.isSimple
  | _ => false

/-- A statement that starts on a line with its redirections.  A subshell has one list of
redirections, so those behind a group of one subshell stand for its own. -/
def Statement.withRedirects (line : Nat) (body : Statement) (redirects : List Redirect) :
    Statement :=
  if redirects.isEmpty then body
  else
    match body.subshell? with
    | some (line, inner) => .redirected line (.subshell line inner) redirects
    | none => .redirected line body redirects

end Script

end InteractiveShell
