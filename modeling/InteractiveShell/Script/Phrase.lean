import InteractiveShell.Script.Statement

/-!
# The words of a script

What a phrase says without its expansions, and how a phrase is put together from characters and
pieces.
-/

namespace InteractiveShell

namespace Script

/-- Whether a part of a phrase is quoted. -/
def Piece.isQuoted : Piece → Bool
  | literal _ quoted | parameter _ _ quoted => quoted
  | substitution _ quoted | arithmetic _ quoted => quoted
  | document _ => false

namespace Phrase

/-- The literal text of a phrase without quotes and expansions. -/
def plainText? : Phrase → Option Text
  | [.literal text false] => some text
  | _ => none

/-- The literal text of a phrase with its quotes resolved and without what expansions add. -/
def literalText (phrase : Phrase) : Text :=
  phrase.flatMap fun
    | .literal text _ => text
    | _ => []

/-- Reads a phrase as an assignment to a name. -/
def assignment? : Phrase → Option (Text × Phrase)
  | .literal text false :: rest =>
    let name := text.takeWhile fun character => character ≠ '='
    match text.drop name.length with
    | '=' :: value =>
      if isName name then
        some (name, if value.isEmpty then rest else .literal value false :: rest)
      else none
    | _ => none
  | _ => none

end Phrase

/-- A phrase in progress.  Neighbouring characters of one kind become one literal. -/
structure Draft where
  /-- The pieces in front, the latest one first. -/
  pieces : List Piece
  /-- The characters of the literal in progress, the latest one first, and whether it is quoted. -/
  literal : Option (Text × Bool)
  /-- Whether nothing more becomes part of the phrase. -/
  isClosed : Bool

namespace Draft

/-- The draft of nothing. -/
def empty : Draft :=
  ⟨[], none, false⟩

/-- The pieces of a draft, the latest one first. -/
def allPieces (draft : Draft) : List Piece :=
  match draft.literal with
  | some (text, quoted) => .literal text.reverse quoted :: draft.pieces
  | none => draft.pieces

/-- The phrase that was put together. -/
def phrase (draft : Draft) : Phrase :=
  draft.allPieces.reverse

/-- Adds characters, which are given with the latest one first. -/
def pushAll (draft : Draft) (characters : Text) (quoted : Bool) : Draft :=
  if draft.isClosed then draft
  else
    match draft.literal with
    | some (text, alike) =>
      if quoted = alike then { draft with literal := some (characters ++ text, quoted) }
      else { draft with pieces := draft.allPieces, literal := some (characters, quoted) }
    | none => { draft with literal := some (characters, quoted) }

/-- Adds a character. -/
def push (draft : Draft) (character : Char) (quoted : Bool) : Draft :=
  draft.pushAll [character] quoted

/-- Adds quotes with nothing between them, which make a field at least. -/
def quote (draft : Draft) : Draft :=
  draft.pushAll [] true

/-- Adds a piece. -/
def add (draft : Draft) (piece : Piece) : Draft :=
  if draft.isClosed then draft
  else
    match piece with
    | .literal text quoted => draft.pushAll text.reverse quoted
    | other => { draft with pieces := other :: draft.allPieces, literal := none }

/-- Adds the pieces of another draft.  What closes that one closes this one. -/
def append (draft other : Draft) : Draft :=
  let joined := other.phrase.foldl add draft
  { joined with isClosed := joined.isClosed || other.isClosed }

/-- Adds what is between double quotes.  It makes a field at least, unless it is nothing but the
list of all arguments. -/
def appendQuoted (draft inside : Draft) : Draft :=
  match inside.phrase with
  | [.parameter ['@'] .plain _] => draft.append inside
  | _ => (draft.quote.append inside).quote

end Draft

end Script

end InteractiveShell
