import InteractiveShell.Script.Child
import InteractiveShell.Script.Utility

/-!
# Looking for commands

What the words of a command say about how it is to be run, and the utilities that tell what the name
of a command stands for.  The names of programs that were found are kept, until programs are looked
for elsewhere.
-/

namespace InteractiveShell

namespace Script

/-! ### The words of a command -/

/-- The utilities that keep assignments among their arguments together. -/
def assigningUtilities : List Bytes :=
  ["export", "readonly", "local", "alias"].map bytes

/-- The words of a command, and what stood in front of them. -/
structure Invocation where
  words : List Bytes
  /-- Whether functions count, which they do not behind `command`. -/
  takesFunctions : Bool
  /-- Whether programs are looked for where they are if no variable says so. -/
  usesDefaultPath : Bool

namespace Invocation

/-- What is behind the options of `command` and whether they ask for the default path; nothing if it
is to tell something about commands. -/
def behindOptions? : List Bytes → Option (Bool × List Bytes)
  | [] => none
  | word :: rest =>
    match textOf word with
    | ['-', '-'] => if rest.isEmpty then none else some (false, rest)
    | '-' :: first :: others =>
      if (first :: others).all fun letter => letter = 'p' then
        (behindOptions? rest).map fun (_, behind) => (true, behind)
      else none
    | _ => some (false, word :: rest)

/-- Takes `command` off the front of words as often as it is there. -/
def strip : Nat → Invocation → Invocation
  | 0, invocation => invocation
  | count + 1, invocation =>
    match invocation.words with
    | [] => invocation
    | name :: rest =>
      match if name = bytes "command" then behindOptions? rest else none with
      | some (usesDefaultPath, behind) =>
        strip count ⟨behind, false, invocation.usesDefaultPath || usesDefaultPath⟩
      | none => invocation

/-- The words of a command. -/
def ofWords (words : List Bytes) : Invocation :=
  strip words.length ⟨words, true, false⟩

/-- Whether the words are those of a certain utility. -/
def isFor (invocation : Invocation) (name : String) : Bool :=
  invocation.words.head? = some (bytes name)

/-- Whether further words that are assignments keep together. -/
def takesAssignments (invocation : Invocation) : Bool :=
  invocation.words.head?.any assigningUtilities.contains

/-- Whether the words are those of a utility whose failure ends the script. -/
def isSpecial (invocation : Invocation) : Bool :=
  invocation.takesFunctions &&
    invocation.words.head?.any fun name => specialUtilities.contains (String.ofList (textOf name))

end Invocation

/-! ### What names stand for -/

/-- Remembers that the program of a name was found. -/
def Process.locate (process : Process) (name : Text) : Process :=
  if '/' ∈ name || process.located.contains name then process
  else { process with located := process.located ++ [name] }

/-- The path of the program of a name, along a search path. -/
def Process.programPath? (process : Process) (searchPath : Text) (name : Bytes) : Option Text :=
  match process.programPaths searchPath name with
  | .ok (path :: _) => if '/' ∉ textOf name || process.reaches path then some path else none
  | _ => none

/-- Tells what a name stands for, by a sentence or as briefly as it can be told. -/
def describe (searchPath? : Option Text) (inSentence : Bool) (process : Process) (name : Bytes) :
    Process :=
  let text := textOf name
  let word := String.ofList text
  let tell (process : Process) (kind brief : Bytes) : Process :=
    let shown := if inSentence then name ++ bytes " is " ++ kind else brief
    (process.emit 1 (shown ++ bytes "\n")).withStatus 0
  if reservedWords.contains word then tell process (bytes "a shell keyword") name
  else if let some value := process.aliases.lookup text then
    let value := bytesOf value
    tell process (bytes "an alias for " ++ value)
      (bytes "alias " ++ name ++ bytes "=" ++ quoteValue value)
  else if (process.functions.lookup text).isSome then
    tell process (bytes "a shell function") name
  else if specialUtilities.contains word then
    tell process (bytes "a special shell builtin") name
  else if isUtility word then tell process (bytes "a shell builtin") name
  else
    match process.programPath? (searchPath?.getD process.searchPath) name with
    | some path =>
      let isKnown := searchPath?.isNone && process.located.contains text
      let after := if searchPath?.isNone then process.locate text else process
      let kind := if isKnown then bytes "a tracked alias for " ++ path.encode else path.encode
      tell after kind path.encode
    | none =>
      let told := if inSentence then process.emit 1 (name ++ bytes ": not found\n") else process
      told.withStatus 127

/-- Tells what names stand for. -/
def type (process : Process) (names : List Bytes) : Process :=
  names.foldl
    (fun process name =>
      let after := describe none true process name
      after.withStatus (max process.status after.status))
    (process.withStatus 0)

/-- Tells what a name stands for, as the options of `command` ask for. -/
def tell (process : Process) (arguments : List Bytes) : Process :=
  withOptions "pvV" process arguments fun letters names =>
    let asks := letters.contains 'v' || letters.contains 'V'
    let searchPath? := if letters.contains 'p' then some defaultPath else none
    match names with
    | name :: _ =>
      if asks then describe searchPath? (letters.contains 'V') process name
      else process.withStatus 0
    | [] => process.withStatus 0

/-- Looks for the program of a name that stands for nothing else. -/
def Process.locateProgram (process : Process) (name : Bytes) : Except SystemError Process :=
  let text := textOf name
  if (process.functions.lookup text).isSome || isUtility (String.ofList text) then .ok process
  else (process.programPaths process.searchPath name).map fun _ => process.locate text

/-- Looks for the program of a stage of a pipeline, which runs as a part of the script. -/
def Process.locateStage (process : Process) : Statement → Process
  | .simple _ _ (phrase :: _) _ =>
    match (Phrase.plainText? phrase).filter isName with
    | some name => ((process.locateProgram (bytesOf name)).toOption).getD process
    | none => process
  | _ => process

/-- Looks for programs, or lists those that were found. -/
def hash (process : Process) (arguments : List Bytes) : Process :=
  withOptions "r" process arguments fun letters names =>
    if !letters.isEmpty then { process with located := [], status := 0 }
    else if names.isEmpty then
      let lines := (listingBy 31 id process.located).filterMap fun name =>
        (process.programPath? process.searchPath (bytesOf name)).map fun path =>
          path.encode ++ bytes "\n"
      (process.emit 1 lines.flatten).withStatus 0
    else
      names.foldl
        (fun process name =>
          match process.locateProgram name with
          | .ok located => located
          | .error cause => process.fail 1 (name ++ bytes (": " ++ startFailure cause)))
        (process.withStatus 0)

end Script

end InteractiveShell
