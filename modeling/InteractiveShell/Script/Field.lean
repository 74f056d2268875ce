import InteractiveShell.Script.Pattern
import InteractiveShell.Script.Process
import InteractiveShell.Text.Order
import InteractiveShell.Text.Utf8

/-!
# Fields

The expansions of a phrase contribute segments.  Segments make fields: what is solid stays together,
what is loose is split at separators, and each value of a list is a field of its own.  A field
remembers which of its bytes were quoted, because it is read as a pattern of paths when it has a
mark that was not.
-/

namespace InteractiveShell

namespace Script

/-- What an expansion contributes to a phrase. -/
inductive Segment where
  /-- Bytes that stay together. -/
  | solid (bytes : Bytes) (quoted : Bool)
  /-- Values that separators split into fields.  The border between two values is white space. -/
  | loose (values : List Bytes)
  /-- Quoted values that are fields of their own. -/
  | listed (values : List Bytes)
deriving DecidableEq

/-- Whether a byte is white space.  White space that separates fields counts once, however much
there is of it, and does so together with one other separator. -/
def isSpace (byte : UInt8) : Bool :=
  byte = ascii ' ' || byte = ascii '\t' || byte = ascii '\n'

namespace Segment

/-- The bytes of segments taken together.  A border between values counts as the first separator. -/
def join (separators : Bytes) (segments : List Segment) : Bytes :=
  segments.flatMap fun
    | solid bytes _ => bytes
    | loose values | listed values => (separators.take 1).intercalate values

/-- Segments as a pattern. -/
def pattern (separators : Bytes) (segments : List Segment) : Pattern :=
  let border := Pattern.ofBytes false (separators.take 1)
  segments.flatMap fun
    | solid bytes quoted => Pattern.ofBytes quoted bytes
    | loose values => border.intercalate (values.map (Pattern.ofBytes false))
    | listed values => border.intercalate (values.map (Pattern.ofBytes true))

/-- The segment for a value. -/
def ofValue (quoted : Bool) (value : Bytes) : Segment :=
  if quoted then solid value true else loose [value]

/-- The segments for the values of a list.  An empty list that is quoted makes no field. -/
def ofList (quoted : Bool) (values : List Bytes) : List Segment :=
  if quoted && values.isEmpty then [] else [if quoted then listed values else loose values]

end Segment

/-- Whether an element separates fields: a byte, or the border between two values, which is
nothing. -/
def separates (separators : Bytes) (element : Option UInt8) : Bool :=
  element.all separators.contains

/-- Whether a separator is white space. -/
def isWhite (element : Option UInt8) : Bool :=
  element.all isSpace

/-- Leaves one border, which is nothing, of what separates two fields in a loose segment.  White
space in front of a field goes away, where `atStart` tells that nothing of the field is there.
`skips` tells that white space has just ended a field, to which one other separator belongs.  If all
`count`, each separator ends a field. -/
def borders (separators : Bytes) (allCount : Bool) :
    Bool → Bool → List (Option UInt8) → List (Option UInt8)
  | _, _, [] => []
  | skips, atStart, element :: rest =>
    if !separates separators element then
      element :: borders separators allCount false false rest
    else if skips then borders separators allCount (isWhite element) true rest
    else if isWhite element && atStart && !allCount then
      borders separators allCount false true rest
    else none :: borders separators allCount (isWhite element && !allCount) true rest

/-- Takes loose values apart: what belongs to the field in progress, then what begins each further
field. -/
def splitLoose (separators : Bytes) (allCount atStart : Bool) (values : List Bytes) : List Bytes :=
  let elements := [none].intercalate (values.map fun value => value.map some)
  (borders separators allCount false atStart elements).splitOn none |>.map List.reduceOption

/-- Adds to the field in progress, of which there may be nothing yet. -/
def extend (current : Option Pattern) (quoted : Bool) (added : Bytes) : Option Pattern :=
  some (current.getD [] ++ Pattern.ofBytes quoted added)

/-- Adds parts of which all but the first begin a field each.  Gives the fields completed and the
one in progress. -/
def extendAll (quoted : Bool) : Option Pattern → List Bytes → List Pattern × Option Pattern
  | current, [] => ([], current)
  | current, [last] => ([], if last.isEmpty then current else extend current quoted last)
  | current, part :: rest =>
    let (later, last) := extendAll quoted none rest
    ((current.getD [] ++ Pattern.ofBytes quoted part) :: later, last)

/-- The fields that segments make behind the field in progress.  `behindList` tells that a list was
the last to be split: its last value is a field even if it is empty, and behind it each separator
counts. -/
def fieldsFrom (separators : Bytes) (behindList : Bool) (current : Option Pattern) :
    List Segment → List Pattern
  | [] => if behindList then [current.getD []] else current.toList
  | .solid bytes quoted :: rest =>
    fieldsFrom separators behindList (extend current quoted bytes) rest
  | .loose values :: rest =>
    let parts := splitLoose separators behindList current.isNone values
    let (completed, last) := extendAll false current parts
    completed ++ fieldsFrom separators false last rest
  | .listed values :: rest =>
    let (completed, last) := extendAll true current values
    completed ++ fieldsFrom separators true last rest

/-- The fields of a phrase. -/
def fieldsOf (separators : Bytes) (segments : List Segment) : List Pattern :=
  fieldsFrom separators false none segments

/-! ### Fields that are patterns of paths -/

namespace Process

/-- Whether a path leads somewhere. -/
def reaches (process : Process) (path : Text) : Bool :=
  (process.files.resolve process.directory path).toOption.isSome

/-- Whether there is something at a path, be it a link that leads nowhere. -/
def finds (process : Process) (path : Text) : Bool :=
  process.reaches path || process.files.isLink process.directory path

/-- The names in a directory that a pattern matches.  A name that begins with a dot is only matched
by a pattern that does so too. -/
def matchingNames (process : Process) (directory : Text) (pattern : Pattern) : List Text :=
  let place := if directory.isEmpty then Path.here else directory
  let entries :=
    match process.files.list process.directory place with
    | .ok names => Path.here :: Path.above :: names
    | .error _ => []
  entries.filter fun name =>
    pattern.matches name.encode &&
      (name.head? ≠ some '.' || pattern.bytes.head? = some (ascii '.'))

/-- The paths that begin as given and go on as patterns for one name each say. -/
def matchingPaths (process : Process) (beginning : Text) : List Pattern → List Text
  | [] => if process.finds beginning then [beginning] else []
  | pattern :: rest =>
    let ending := if rest.isEmpty then [] else ['/']
    if pattern.isPlain then
      matchingPaths process (beginning ++ Utf8.decode pattern.bytes ++ ending) rest
    else
      (process.matchingNames beginning pattern).flatMap fun name =>
        matchingPaths process (beginning ++ name ++ ending) rest

/-- What a field stands for: the paths that it matches, in order, or itself if there are none. -/
def expandField (process : Process) (field : Pattern) : List Bytes :=
  if field.isPlain || process.has .keepPatterns then [field.bytes]
  else
    match process.matchingPaths [] (field.splitOnP fun element => element.1 = ascii '/') with
    | [] => [field.bytes]
    | found => (found.mergeSort Text.atMost).map Text.encode

end Process

end Script

end InteractiveShell
