import InteractiveShell.Text.CommonPrefix

/-!
# Editing a line key by key

The state of an edit is the text typed so far and whether the last key was a tab that left several
candidates open.  `Edit.press` says what one key does: it changes the state or ends the edit, and
shows some text.  `Edit.close` says how the end of input ends the edit.

A completer gives the candidates for a text.  A tab asks it for those of the whole text typed so
far.  No candidate rings the bell; one is inserted with a space behind it; of several the common
beginning is inserted, and where that adds nothing the bell rings and a second tab directly behind
lists them.
-/

namespace InteractiveShell

/-- Gives the candidates for the completion of a text. -/
abbrev Completer := Text → List Text

/-- The text typed so far. -/
structure Buffer where
  /-- Its characters, the latest one first. -/
  latestFirst : List Char
deriving DecidableEq

namespace Buffer

/-- The text in the order of typing. -/
def text (buffer : Buffer) : Text :=
  buffer.latestFirst.reverse

/-- The buffer that holds a text. -/
def ofText (text : Text) : Buffer :=
  ⟨text.reverse⟩

/-- Adds a character at the end. -/
def push (buffer : Buffer) (character : Char) : Buffer :=
  ⟨character :: buffer.latestFirst⟩

/-- Adds a text at the end. -/
def append (buffer : Buffer) (added : Text) : Buffer :=
  ⟨added.reverse ++ buffer.latestFirst⟩

/-- Drops the last character, if there is any. -/
def pop? (buffer : Buffer) : Option Buffer :=
  match buffer.latestFirst with
  | [] => none
  | _ :: rest => some ⟨rest⟩

@[simp]
theorem text_ofText (text : Text) : (ofText text).text = text := by
  simp [Buffer.text, ofText]

@[simp]
theorem text_push (buffer : Buffer) (character : Char) :
    (buffer.push character).text = buffer.text ++ [character] := by
  simp [text, push]

@[simp]
theorem text_append (buffer : Buffer) (added : Text) :
    (buffer.append added).text = buffer.text ++ added := by
  simp [text, append]

theorem pop?_eq_none_iff {buffer : Buffer} : buffer.pop? = none ↔ buffer.text = [] := by
  cases buffer with
  | mk characters => cases characters <;> simp [pop?, text]

theorem text_of_pop?_eq_some {buffer shorter : Buffer} (popped : buffer.pop? = some shorter) :
    shorter.text = buffer.text.dropLast := by
  cases buffer with
  | mk characters =>
    cases characters with
    | nil => cases popped
    | cons last earlier =>
      cases popped
      simp [text]

end Buffer

/-! ### Keys with a meaning of their own -/

namespace Key

def interrupt : Char := '\x03'
def endOfTransmission : Char := '\x04'
def bell : Char := '\x07'
def backspace : Char := '\x08'
def tab : Char := '\t'
def lineFeed : Char := '\n'
def carriageReturn : Char := '\x0d'
def delete : Char := '\x7f'

end Key

/-- Starts a new line on the terminal. -/
def newLine : Text :=
  [Key.carriageReturn, Key.lineFeed]

/-- Takes the last character off the terminal's line. -/
def erasure : Text :=
  [Key.backspace, ' ', Key.backspace]

/-- How an edit ended. -/
inductive Outcome where
  /-- A line was completed. -/
  | submitted (line : Text)
  /-- The candidates were listed; the next edit starts from the buffer. -/
  | listed (buffer : Text)
  | interrupted
  | endOfInput
deriving DecidableEq

/-- Whether the last key was a tab that left several candidates open. -/
inductive TabState where
  | reading
  | awaitingSecondTab
deriving DecidableEq

/-- The state of an edit between two keys. -/
structure Edit where
  buffer : Buffer
  tabState : TabState
deriving DecidableEq

/-- What a key does. -/
inductive Reaction where
  /-- The edit goes on. -/
  | proceed (edit : Edit) (shown : Text)
  /-- The edit ends. -/
  | finish (outcome : Outcome) (shown : Text)
deriving DecidableEq

/-- The part of a text behind a beginning; nothing if it begins differently. -/
def remainder (beginning text : Text) : Text :=
  (beginning.isPrefixOf? text).getD []

/-- The line that lists candidates. -/
def listing (candidates : List Text) : Text :=
  [' ', ' '].intercalate candidates

namespace Edit

/-- The state at the start of an edit. -/
def start (seed : Text) : Edit :=
  ⟨.ofText seed, .reading⟩

/-- Adds a text to the buffer and shows it. -/
def insert (edit : Edit) (added : Text) : Reaction :=
  .proceed ⟨edit.buffer.append added, .reading⟩ added

/-- What a tab does when these are the candidates for the buffer. -/
def complete (edit : Edit) : List Text → Reaction
  | [] => .proceed { edit with tabState := .reading } [Key.bell]
  | [only] => edit.insert (remainder edit.buffer.text only ++ [' '])
  | candidates =>
    match edit.tabState with
    | .awaitingSecondTab =>
      .finish (.listed edit.buffer.text) (newLine ++ listing candidates)
    | .reading =>
      match remainder edit.buffer.text (longestCommonPrefix candidates) with
      | [] => .proceed { edit with tabState := .awaitingSecondTab } [Key.bell]
      | extension => edit.insert extension

/-- How the end of input ends the edit, and what it shows: it submits the buffer unless that is
empty. -/
def close (edit : Edit) : Outcome × Text :=
  if edit.buffer.text.isEmpty then (.endOfInput, []) else (.submitted edit.buffer.text, newLine)

/-- What a key does. -/
def press (completer : Completer) (edit : Edit) (key : Char) : Reaction :=
  let reading : Edit := { edit with tabState := .reading }
  if key = Key.tab then
    edit.complete (completer edit.buffer.text)
  else if key = Key.interrupt then
    .finish .interrupted newLine
  else if key = Key.endOfTransmission then
    if edit.buffer.text.isEmpty then .finish .endOfInput newLine else .proceed reading []
  else if key = Key.carriageReturn ∨ key = Key.lineFeed then
    .finish (.submitted edit.buffer.text) newLine
  else if key = Key.delete ∨ key = Key.backspace then
    match edit.buffer.pop? with
    | some shorter => .proceed ⟨shorter, .reading⟩ erasure
    | none => .proceed reading []
  else
    .proceed ⟨edit.buffer.push key, .reading⟩ [key]

end Edit

end InteractiveShell
