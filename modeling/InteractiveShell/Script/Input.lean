import InteractiveShell.Script.Field

/-!
# Reading lines into variables

A line is taken off the input and split into fields, one for each variable.  The last variable takes
what is left: a single field without what ends it, or else everything up to the white space at the
end.  A byte that follows a backslash separates nothing, but goes away with white space before it if
no other byte follows.
-/

namespace InteractiveShell

namespace Script

/-- A line that was taken off some bytes.  Its bytes are marked when they separate nothing. -/
structure InputLine where
  content : Pattern
  /-- How many bytes were taken. -/
  size : Nat
  /-- Whether the line was ended. -/
  ended : Bool

namespace InputLine

/-- Adds to the front of a line. -/
def add (content : Pattern) (size : Nat) (line : InputLine) : InputLine :=
  ⟨content ++ line.content, size + line.size, line.ended⟩

/-- Takes a line off some bytes.  A backslash counts unless the line is raw: it disappears, together
with the end of the line if that follows it. -/
def take (raw : Bool) : Bytes → InputLine
  | [] => ⟨[], 0, false⟩
  | byte :: rest =>
    if byte = ascii '\n' then ⟨[], 1, true⟩
    else if byte = 0 then (take raw rest).add [] 1
    else if byte ≠ ascii '\\' || raw then (take raw rest).add [(byte, false)] 1
    else
      match rest with
      | [] => ⟨[], 1, false⟩
      | escaped :: rest =>
        (take raw rest).add (if escaped = ascii '\n' then [] else [(escaped, true)]) 2

end InputLine

/-- Whether an element of a line separates fields. -/
def separatesField (separators : Bytes) (element : UInt8 × Bool) : Bool :=
  !element.2 && separators.contains element.1

/-- Whether an element of a line is separating white space. -/
def separatesAsSpace (separators : Bytes) (element : UInt8 × Bool) : Bool :=
  separatesField separators element && isSpace element.1

/-- Drops what ends a field: white space with at most one other separator. -/
def dropFieldEnd (separators : Bytes) (line : Pattern) : Pattern :=
  let isBlank := separatesAsSpace separators
  match line.dropWhile isBlank with
  | [] => []
  | first :: rest =>
    if separatesField separators first then rest.dropWhile isBlank else first :: rest

/-- Whether what follows a separator goes away with it: white space, escaped bytes, and one other
separator if it `mayFollow`. -/
def isDropped (separators : Bytes) (mayFollow : Bool) : Pattern → Bool
  | [] => true
  | element :: rest =>
    if element.2 then isDropped separators false rest
    else if separatesAsSpace separators element then isDropped separators mayFollow rest
    else mayFollow && separatesField separators element && isDropped separators false rest

/-- Drops white space at the end, with the escaped bytes behind it. -/
def dropLineEnd (separators : Bytes) : Pattern → Pattern
  | [] => []
  | element :: rest =>
    if separatesAsSpace separators element && isDropped separators false rest then []
    else element :: dropLineEnd separators rest

/-- What the last variable takes of a line: a single field, or everything up to the end. -/
def lastField (separators : Bytes) (line : Pattern) : Pattern :=
  let field := line.takeWhile fun element => !separatesField separators element
  match line.drop field.length with
  | [] => field
  | separator :: rest =>
    if isDropped separators (separatesAsSpace separators separator) rest then field
    else field ++ separator :: dropLineEnd separators rest

/-- The values of a number of variables, one after another. -/
def valuesOf (separators : Bytes) : Nat → Pattern → List Bytes
  | 0, _ => []
  | 1, line => [(lastField separators line).bytes]
  | count + 2, line =>
    let field := line.takeWhile fun element => !separatesField separators element
    Pattern.bytes field ::
      valuesOf separators (count + 1) (dropFieldEnd separators (line.drop field.length))

/-- Gives the fields of a line to variables. -/
def Process.assignFields (process : Process) (names : List Text) (line : Pattern) : Process :=
  let separators := process.separators
  let values := valuesOf separators names.length (line.dropWhile (separatesAsSpace separators))
  (names.zip values).foldl
    (fun process (name, value) =>
      if process.isRunning then process.assignTo name value else process)
    process

/-- Reads a line into variables and tells by the status whether it was ended. -/
def Process.readLine (process : Process) (raw : Bool) (names : List Text) : Process :=
  let line := InputLine.take raw (process.readable 0)
  let after := (process.consume 0 line.size).assignFields names line.content
  if after.isRunning then after.succeedIf line.ended else after

end Script

end InteractiveShell
