import InteractiveShell.Script.Input
import InteractiveShell.Script.Utility.Basic

/-!
# The utilities for variables and aliases

Variables are shown to other programs, kept as they are, made a function's own, taken away and read
from a line.
-/

namespace InteractiveShell

namespace Script

/-- Cuts an argument at the first equals sign: a name, and the value behind the sign. -/
def cutAssignment (argument : Bytes) : Text × Option Bytes :=
  let name := argument.takeWhile fun byte => byte ≠ ascii '='
  let hasValue := name.length < argument.length
  (textOf name, if hasValue then some (argument.drop (name.length + 1)) else none)

/-- Goes through names with or without values as long as they are names and nothing fails. -/
def Process.forNames (process : Process) (arguments : List Bytes)
    (go : Process → Text → Option Bytes → Process) : Process :=
  arguments.foldl
    (fun process argument =>
      let (name, value) := cutAssignment argument
      if !process.isRunning then process
      else if isName name then go process name value
      else process.refuseName name)
    (process.withStatus 0)

/-- Gives a variable a value if there is one. -/
def Process.assignGiven (process : Process) (name : Text) (value? : Option Bytes) : Process :=
  (value?.map (process.assign name)).getD process

/-- Marks variables for other programs, with values if they are given. -/
def exportAll (process : Process) (arguments : List Bytes) : Process :=
  withOption 'p' process arguments fun lists operands =>
    if lists || operands.isEmpty then process.list "export " process.exported
    else
      process.forNames operands fun process name value =>
        (process.expose name).assignGiven name value

/-- Makes variables keep their values, with values if they are given. -/
def fixAll (process : Process) (arguments : List Bytes) : Process :=
  withOption 'p' process arguments fun lists operands =>
    if lists || operands.isEmpty then process.list "readonly " process.fixed
    else
      process.forNames operands fun process name value =>
        let assigned := process.assignGiven name value
        { assigned with fixed := name :: assigned.fixed }

/-- Makes variables a running function's own, or the settings behind a dash.  What is given a value
is not looked at whether it is a name. -/
def localAll (process : Process) (arguments : List Bytes) : Process :=
  match process.shadowed with
  | [] => process.abort (bytes "not in a function")
  | _ =>
    arguments.foldl
      (fun process argument =>
        let (name, value?) := cutAssignment argument
        if !process.isRunning then process
        else if argument = bytes "-" then process.shadow (.settings process.settings)
        else if value?.isNone && !isName name then process.refuseName name
        else (process.shadow (process.shadowOf name)).assignGiven name value?)
      (process.withStatus 0)

/-- Forgets variables or functions. -/
def unsetAll (process : Process) (arguments : List Bytes) : Process :=
  withOptions "fv" process arguments fun letters operands =>
    if letters.getLast? = some 'f' then
      let names := operands.map textOf
      { process with
        functions := process.functions.filter fun entry => !names.contains entry.1
        status := 0 }
    else process.forNames operands fun process name _ => process.forget name

/-- Reads a line into variables.  Only a terminal would show what asks for it. -/
def read (process : Process) (arguments : List Bytes) : Process :=
  match readOptions ['r'] ['p'] arguments with
  | .error complaint => process.abort complaint
  | .ok (_, []) => process.abort (bytes "arg count")
  | .ok (letters, names) => process.readLine (letters.contains 'r') (names.map textOf)

/-- Gives words texts that are read in their places, or lists these.  A word has one character at
least. -/
def setAliases (process : Process) (arguments : List Bytes) : Process :=
  let listed (process : Process) (word value : Text) : Process :=
    process.emit 1 (bytesOf word ++ bytes "=" ++ quoteValue (bytesOf value) ++ bytes "\n")
  if arguments.isEmpty then
    (listingBy 39 Prod.fst process.aliases).foldl
      (fun process (word, value) => listed process word value) (process.withStatus 0)
  else
    arguments.foldl
      (fun process argument =>
        let (behind, value?) := cutAssignment (argument.drop 1)
        let word := textOf (argument.take 1) ++ behind
        match value? with
        | some value => { process with aliases := withAlias word (textOf value) process.aliases }
        | none =>
          match process.aliases.lookup word with
          | some value => listed process word value
          | none =>
            let complaint := bytes "alias: " ++ argument ++ bytes " not found\n"
            ((process.write? 2 complaint).getD process).withStatus 1)
      (process.withStatus 0)
where
  /-- Gives a word a text, in its place if it has one already. -/
  withAlias (word value : Text) : Aliases → Aliases
    | [] => [(word, value)]
    | entry :: rest =>
      if entry.1 = word then (word, value) :: rest else entry :: withAlias word value rest

/-- Forgets aliases. -/
def dropAliases (process : Process) (arguments : List Bytes) : Process :=
  withOption 'a' process arguments fun all words =>
    if all then { process with aliases := [], status := 0 }
    else
      words.foldl
        (fun process word =>
          let others := process.aliases.filter fun entry => entry.1 ≠ textOf word
          if others.length < process.aliases.length then { process with aliases := others }
          else
            let complaint := bytes "unalias: " ++ word ++ bytes " not found\n"
            ((process.write? 2 complaint).getD process).withStatus 1)
        (process.withStatus 0)

end Script

end InteractiveShell
