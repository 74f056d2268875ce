import InteractiveShell.Script.Phrase

/-!
# Reading scripts

The state in which a script is read: where its text goes on, and what was read so far.  The text of
an alias is read in the place of the alias, and what is behind the alias is read when that text
ends.  A backslash in front of the end of a line joins the line to the next one.

What a redirection reads from the script is a document.  It begins on the line behind its
redirection and ends with a line that its mark tells.
-/

namespace InteractiveShell

namespace Script

/-- Words and the texts that are read in their places. -/
abbrev Aliases := List (Text × Text)

/-- An alias in the place of which a text is read. -/
structure Replacement where
  /-- The alias, and those of which the text ended just in front of it. -/
  words : List Text
  /-- What is behind the word. -/
  behind : Text
  /-- Whether the text ends with a blank, so that the word behind can be an alias, too. -/
  isOpen : Bool

/-- How a document in the script is written. -/
structure DocumentMark where
  /-- The line that ends it; the end of the text does if there is none. -/
  ending : Option Text
  /-- Whether nothing in it is expanded. -/
  quoted : Bool
  /-- Whether the tabs in front of each line are left out. -/
  indented : Bool

/-- The signs that are no words. -/
inductive Mark where
  | both
  | either
  | branchEnd
  | separator
  | background
  | pipe
  | opening
  | closing
deriving DecidableEq

/-- What a script consists of. -/
inductive Token where
  | word (phrase : Phrase)
  /-- A word of the grammar. -/
  | reserved (word : String)
  | mark (mark : Mark)
  /-- A redirection without its target. -/
  | redirect (descriptor : Nat) (kind : RedirectKind)
  /-- A redirection that reads a document, without the mark of that. -/
  | document (descriptor : Nat) (indented : Bool)
  | lineEnd
  | scriptEnd

/-- A script that is being read. -/
structure Reader where
  /-- What is to be read next. -/
  text : Text
  /-- Whether the end of the script, as far as it is known, was met. -/
  isOver : Bool
  /-- The aliases of which the text is being read, the innermost one first. -/
  replacements : List Replacement
  /-- The number of the line. -/
  line : Nat
  /-- Whether the lines are those of a file. -/
  isFile : Bool
  /-- The aliases of which the text has just ended. -/
  ended : List Text
  /-- The aliases in which this text stands. -/
  enclosing : List Text
  aliases : Aliases
  /-- Whether the next word can be an alias because of the blank in front of it. -/
  takesAlias : Bool
  /-- The token that was looked at and not yet taken. -/
  ahead : Option Token
  /-- The last word that was read. -/
  lastWord : Phrase
  /-- The documents that begin behind this line, with their numbers. -/
  pending : List (DocumentMark × Nat)
  /-- The documents by their numbers. -/
  documents : Array Phrase

/-- A script that cannot be read: the line, and what is wrong with it. -/
structure Malformed where
  line : Nat
  message : String

/-- What reads a part of a script. -/
abbrev Reading := EStateM Malformed Reader

namespace Reader

/-- A script that starts on a first line. -/
def ofText (source : Text) : Reader :=
  { text := source
    isOver := false
    replacements := []
    line := 1
    isFile := false
    ended := []
    enclosing := []
    aliases := []
    takesAlias := false
    ahead := none
    lastWord := []
    pending := []
    documents := #[] }

/-- A script in a file of which nothing is known yet. -/
def ofFile : Reader :=
  { ofText [] with isFile := true }

/-- A script of which more has become known.  Zero bytes in a file are passed over. -/
def continuedBy (portion : Text) (reader : Reader) : Reader :=
  let added := portion.filter fun character => character ≠ '\x00'
  match reader.replacements.reverse with
  | [] => { reader with text := reader.text ++ added }
  | outermost :: inner =>
    let outermost := { outermost with behind := outermost.behind ++ added }
    { reader with replacements := (outermost :: inner).reverse }

/-- The aliases that do not stand for a text, because that is being read. -/
def inUse (reader : Reader) : List Text :=
  reader.replacements.flatMap Replacement.words ++ reader.ended ++ reader.enclosing

/-- The rest of the script outside of the texts of aliases. -/
def outermost (reader : Reader) : Text :=
  (reader.replacements.getLast?.map Replacement.behind).getD reader.text

/-- Takes the next character, and before it the ends of the texts of aliases. -/
def step (reader : Reader) : Option Char × Reader :=
  go { reader with ended := [] } reader.text reader.replacements
where
  go (reader : Reader) : Text → List Replacement → Option Char × Reader
    | character :: rest, replacements =>
      (some character, { reader with text := rest, replacements := replacements })
    | [], innermost :: outer =>
      go { reader with
          ended := innermost.words ++ reader.ended
          takesAlias := reader.takesAlias || innermost.isOpen }
        innermost.behind outer
    | [], [] => (none, { reader with text := [], replacements := [], isOver := true })

/-- Drops the backslashes at the front that join lines, and counts the lines.  Tells whether a
backslash is the last that is known. -/
def joinLines : Text → Nat → Text × Nat × Bool
  | '\\' :: '\n' :: rest, line => joinLines rest (line + 1)
  | text, line => (text, line, text = ['\\'])

/-- Takes the next character of the lines as they are joined. -/
def joinedStep (reader : Reader) : Option Char × Reader :=
  match reader.step with
  | (some '\\', behind) =>
    match behind.step with
    | (some '\n', next) =>
      let (text, line, isOver) := joinLines next.text (next.line + 1)
      { next with text := text, line := line, isOver := next.isOver || isOver }.step
    | (_, next) => (some '\\', { behind with isOver := next.isOver })
  | other => other

/-- The lines on which the reader began since an earlier time. -/
def linesBegun (earlier later : Reader) : Text :=
  let start :=
    if earlier.replacements.isEmpty then earlier.text
    else (earlier.outermost.dropWhile fun character => character ≠ '\n').drop 1
  let passed := start.take (start.length - later.outermost.length)
  let rest := start.drop passed.length
  let isWhole := passed.getLast?.all fun character => character = '\n'
  if isWhole then passed
  else
    let line := rest.takeWhile fun character => character ≠ '\n'
    passed ++ rest.take (line.length + 1)

/-- Takes the next character as it is written. -/
def next : Reading (Option Char) :=
  modifyGet step

/-- Takes the next character of the lines as they are joined. -/
def nextJoined : Reading (Option Char) :=
  modifyGet joinedStep

/-- Gives a character back. -/
def giveBack : Option Char → Reading Unit
  | some character =>
    modify fun reader => { reader with text := character :: reader.text }
  | none => pure ()

/-- Takes the next character if it is the given one. -/
def takes (character : Char) : Reading Bool := do
  let found ← nextJoined
  if found = some character then
    return true
  giveBack found
  return false

/-- Counts a line. -/
def passLine : Reading Unit :=
  modify fun reader => { reader with line := reader.line + 1 }

/-- Ends the reading of a script that cannot be read. -/
def fail {α : Type} (message : String) : Reading α := do
  throw ⟨(← get).line, message⟩

/-- Takes characters of the joined lines as long as they meet a condition; gives them with the
latest one first. -/
def takeWhile (condition : Char → Bool) : Nat → Text → Reading Text
  | 0, taken => return taken
  | fuel + 1, taken => do
    let found ← nextJoined
    match found with
    | some character =>
      if condition character then
        takeWhile condition fuel (character :: taken)
      else
        giveBack found
        return taken
    | none => return taken

end Reader

end Script

end InteractiveShell
