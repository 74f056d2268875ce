import InteractiveShell.Script.Reader.Token

/-!
# The grammar of scripts

How statements are read.  A script is read line by line; `firstLine` reads as many lines as the
statements on the first one take.
-/

namespace InteractiveShell

namespace Script

namespace Reader

/-- Passes a word of the grammar that has to be next. -/
def expectWord (word : String) (found : Token) : Reading Unit :=
  match found with
  | .reserved other => if other = word then return () else missing (quote word) found
  | _ => missing (quote word) found

/-- Passes a sign that has to be next. -/
def expectMark (mark : Mark) (found : Token) : Reading Unit :=
  match found with
  | .mark other => if other = mark then return () else missing (quote mark.text) found
  | _ => missing (quote mark.text) found

/-- Whether a token is a certain word of the grammar. -/
def isReserved (word : String) : Token → Bool
  | .reserved found => found = word
  | _ => false

/-- Whether a token is a certain sign. -/
def isMark (mark : Mark) : Token → Bool
  | .mark found => found = mark
  | _ => false

/-- Reads the mark of a document, which gets the next number. -/
def documentMark (statements : StatementReading) (fuel : Nat) (indented : Bool) :
    Reading Phrase := do
  match ← rawToken statements ⟨false, none⟩ fuel with
  | .word phrase =>
    let mark := ⟨some phrase.literalText, phrase.any Piece.isQuoted, indented⟩
    let number := (← get).documents.size
    modify fun reader =>
      { reader with
        pending := reader.pending ++ [(mark, number)]
        documents := reader.documents.push [] }
    return [.document number]
  | found => unexpected found

/-- Reads the target of a redirection; nothing if the token is none. -/
def redirect? (statements : StatementReading) (fuel : Nat) : Token → Reading (Option Redirect)
  | .redirect descriptor kind => do
    match ← token statements .argument fuel with
    | .word target => return some (.mk descriptor kind target)
    | found => unexpected found
  | .document descriptor indented =>
    return some (.mk descriptor .document (← documentMark statements fuel indented))
  | _ => return none

/-- Reads redirections behind a compound command. -/
def redirects (statements : StatementReading) :
    Nat → Position → List Redirect → Reading (List Redirect)
  | 0, _, found => return found.reverse
  | fuel + 1, position, found => do
    let next ← token statements position fuel
    match ← redirect? statements fuel next with
    | some redirect => redirects statements fuel .argument (redirect :: found)
    | none =>
      putBack next
      return found.reverse

/-- Reads the items of a loop.  Gives the token behind them, too. -/
def items (statements : StatementReading) : Nat → List Phrase → Reading (List Phrase × Token)
  | 0, found => return (found.reverse, .scriptEnd)
  | fuel + 1, found => do
    match ← token statements .argument fuel with
    | .word phrase => items statements fuel (phrase :: found)
    | next => return (found.reverse, next)

/-- Reads the patterns of a branch behind the first one.  What stands in the place of a pattern
counts as the last word that was read. -/
def patterns (statements : StatementReading) : Nat → List Phrase → Reading (List Phrase)
  | 0, found => return found.reverse
  | fuel + 1, found => do
    let found := (← get).lastWord :: found
    let next ← token statements .argument fuel
    if isMark .pipe next then
      let _ ← token statements .argument fuel
      patterns statements fuel found
    else
      expectMark .closing next
      return found.reverse

/-- A simple command that is being read, with what was read last in front. -/
structure SimpleCommand where
  assignments : List (Text × Phrase)
  words : List Phrase
  redirects : List Redirect

/-- The statement for a command that starts on a line. -/
def SimpleCommand.statement (command : SimpleCommand) (line : Nat) : Statement :=
  .simple line command.assignments.reverse command.words.reverse command.redirects.reverse

/-- The name of the function that a command begins to define, if parentheses may follow it. -/
def SimpleCommand.defined? (command : SimpleCommand) : Option Phrase :=
  match command with
  | ⟨[], [word], []⟩ => some word
  | _ => none

mutual

/-- Reads a list of statements up to its end, with the latest statement first.  Only where it
`mayEnd` at once, or with the script, may it be empty. -/
def list : Nat → Bool → List Statement → Reading (List Statement)
  | 0, _, found => return found.reverse
  | fuel + 1, mayEnd, found => do
    let next ← token (enclosed fuel) .commandBelow fuel
    if let .scriptEnd := next then
      readDocuments (enclosed fuel) fuel
      putBack next
      return found.reverse
    putBack next
    if mayEnd && next.endsList then
      return found.reverse
    let statement ← chain fuel
    let behind ← token (enclosed fuel) .argument fuel
    match behind with
    | .lineEnd =>
      putBack behind
      list fuel true (statement :: found)
    | .mark .separator => list fuel true (statement :: found)
    | .mark .background => list fuel true (.background statement :: found)
    | other =>
      putBack other
      if let .scriptEnd := other then readDocuments (enclosed fuel) fuel
      return (statement :: found).reverse

/-- Reads the statements of a substitution, up to the parenthesis that closes it if there is
one. -/
def enclosed : Nat → StatementReading
  | 0, _ => return []
  | fuel + 1, isClosed => do
    let found ← list fuel true []
    if isClosed then
      expectMark .closing (← token (enclosed fuel) .argument fuel)
    return found

/-- Reads pipelines joined by `&&` and `||`. -/
def chain : Nat → Reading Statement
  | 0 => return .sequence []
  | fuel + 1 => do
    links fuel (← pipeline fuel .argument)

/-- Reads the further links of a chain. -/
def links : Nat → Statement → Reading Statement
  | 0, first => return first
  | fuel + 1, first => do
    match ← token (enclosed fuel) .argument fuel with
    | .mark .both => links fuel (.both first (← pipeline fuel .commandBelow))
    | .mark .either => links fuel (.either first (← pipeline fuel .commandBelow))
    | other =>
      putBack other
      return first

/-- Reads commands joined by pipes, or their negation. -/
def pipeline : Nat → Position → Reading Statement
  | 0, _ => return .sequence []
  | fuel + 1, position => do
    let first ← token (enclosed fuel) position fuel
    if isReserved "!" first then
      return .negation (← stages fuel .command [])
    else
      putBack first
      stages fuel .argument []

/-- Reads commands joined by pipes, with the latest one first. -/
def stages : Nat → Position → List Statement → Reading Statement
  | 0, _, _ => return .sequence []
  | fuel + 1, position, found => do
    let stage ← command fuel position
    let behind ← token (enclosed fuel) .argument fuel
    if isMark .pipe behind then
      stages fuel .commandBelow (stage :: found)
    else
      putBack behind
      if found.isEmpty then return stage
      return .pipeline (stage :: found).reverse

/-- Reads one command. -/
def command : Nat → Position → Reading Statement
  | 0, _ => return .sequence []
  | fuel + 1, position => do
    let line := (← get).line
    let first ← token (enclosed fuel) position fuel
    match first with
    | .word _ | .redirect _ _ | .document _ _ =>
      putBack first
      simple fuel (← get).line .leading ⟨[], [], []⟩
    | _ =>
      let body ←
        match first with
        | .mark .opening =>
          let body ← list fuel false []
          expectMark .closing (← token (enclosed fuel) .argument fuel)
          pure (Statement.subshell line (.sequence body))
        | .reserved "\x7b" =>
          let body ← list fuel false []
          expectWord "\x7d" (← token (enclosed fuel) .argument fuel)
          pure (.sequence body)
        | .reserved "if" => conditional fuel
        | .reserved "while" => loop fuel false
        | .reserved "until" => loop fuel true
        | .reserved "for" => iteration fuel line
        | .reserved "case" => selection fuel line
        | other => unexpected other
      return body.withRedirects line (← redirects (enclosed fuel) fuel .command [])

/-- Reads the rest of a simple command, or the definition of a function. -/
def simple : Nat → Nat → Position → SimpleCommand → Reading Statement
  | 0, line, _, found => return found.statement line
  | fuel + 1, line, position, found => do
    let next ← token (enclosed fuel) position fuel
    match next with
    | .word phrase =>
      match if position.hasAliases then phrase.assignment? else none with
      | some assignment =>
        simple fuel line position
          { found with assignments := assignment :: found.assignments }
      | none => simple fuel line .argument { found with words := phrase :: found.words }
    | _ =>
      match ← redirect? (enclosed fuel) fuel next with
      | some redirect =>
        simple fuel line position { found with redirects := redirect :: found.redirects }
      | none =>
        match if isMark .opening next then found.defined? else none with
        | some name => definition fuel name
        | none =>
          putBack next
          return found.statement line

/-- Reads the definition of a function behind its opening parenthesis. -/
def definition : Nat → Phrase → Reading Statement
  | 0, _ => return .sequence []
  | fuel + 1, name => do
    expectMark .closing (← token (enclosed fuel) .argument fuel)
    match name.plainText?.filter fun name =>
        isName name && !specialUtilities.contains (String.ofList name) with
    | some name => return .definition name (← command fuel .commandBelow)
    | none => fail "Bad function name"

/-- Reads a conditional behind its first word. -/
def conditional : Nat → Reading Statement
  | 0 => return .sequence []
  | fuel + 1 => do
    let condition ← list fuel false []
    expectWord "then" (← token (enclosed fuel) .argument fuel)
    let consequent ← list fuel false []
    let behind ← token (enclosed fuel) .argument fuel
    if isReserved "elif" behind then
      return .choice (.sequence condition) (.sequence consequent) (← conditional fuel)
    else if isReserved "else" behind then
      let alternative ← list fuel false []
      expectWord "fi" (← token (enclosed fuel) .argument fuel)
      return .choice (.sequence condition) (.sequence consequent) (.sequence alternative)
    else
      expectWord "fi" behind
      return .choice (.sequence condition) (.sequence consequent) (.sequence [])

/-- Reads the body of a loop behind the word in front of it. -/
def loopBody : Nat → Token → Reading Statement
  | 0, _ => return .sequence []
  | fuel + 1, first => do
    expectWord "do" first
    let body ← list fuel false []
    expectWord "done" (← token (enclosed fuel) .argument fuel)
    return .sequence body

/-- Reads a loop with a condition behind its first word. -/
def loop : Nat → Bool → Reading Statement
  | 0, _ => return .sequence []
  | fuel + 1, untilSuccess => do
    let condition ← list fuel false []
    let body ← loopBody fuel (← token (enclosed fuel) .argument fuel)
    return .loop untilSuccess (.sequence condition) body

/-- Reads a loop over items behind its first word. -/
def iteration : Nat → Nat → Reading Statement
  | 0, _ => return .sequence []
  | fuel + 1, line => do
    let first ← token (enclosed fuel) .argument fuel
    let name? := if let .word phrase := first then phrase.plainText?.filter isName else none
    match name? with
    | none => fail "Bad for loop variable"
    | some name =>
      let behind ← token (enclosed fuel) .commandBelow fuel
      if isReserved "in" behind then
        let (found, behind) ← items (enclosed fuel) fuel []
        match behind with
        | .lineEnd | .mark .separator =>
          let body ← loopBody fuel (← token (enclosed fuel) .commandBelow fuel)
          return .each line name (some found) body
        | other => unexpected other
      else
        if !isMark .separator behind then putBack behind
        let body ← loopBody fuel (← token (enclosed fuel) .commandBelow fuel)
        return .each line name none body

/-- Reads a selection behind its first word. -/
def selection : Nat → Nat → Reading Statement
  | 0, _ => return .sequence []
  | fuel + 1, line => do
    match ← token (enclosed fuel) .argument fuel with
    | .word subject =>
      expectWord "in" (← token (enclosed fuel) .commandBelow fuel)
      return .selection line subject (← branches fuel [])
    | other => missing "word" other

/-- Reads the branches of a selection, with the latest one first. -/
def branches : Nat → List (List Phrase × Statement) → Reading (List (List Phrase × Statement))
  | 0, found => return found.reverse
  | fuel + 1, found => do
    let first ← token (enclosed fuel) .branch fuel
    if isReserved "esac" first then return found.reverse
    if isMark .opening first then
      let _ ← token (enclosed fuel) .argument fuel
    let choices ← patterns (enclosed fuel) fuel []
    let body ← list fuel true []
    let found := (choices, .sequence body) :: found
    let behind ← token (enclosed fuel) .branch fuel
    if isReserved "esac" behind then return found.reverse
    expectMark .branchEnd behind
    branches fuel found

end

/-- Reads the statements of the first line, which may go on over further lines, with the latest one
first; nothing at the end of the script. -/
def firstLine : Nat → List Statement → Reading (Option (List Statement))
  | 0, _ => return none
  | fuel + 1, found => do
    match ← token (enclosed fuel) .command fuel with
    | .lineEnd =>
      readDocuments (enclosed fuel) fuel
      return some found.reverse
    | .scriptEnd =>
      readDocuments (enclosed fuel) fuel
      return if found.isEmpty then none else some found.reverse
    | first =>
      putBack first
      let statement ← chain fuel
      match ← token (enclosed fuel) .argument fuel with
      | .lineEnd =>
        putBack .lineEnd
        firstLine fuel (statement :: found)
      | .scriptEnd =>
        readDocuments (enclosed fuel) fuel
        return some (statement :: found).reverse
      | .mark .separator => firstLine fuel (statement :: found)
      | .mark .background => firstLine fuel (.background statement :: found)
      | other => unexpected other

/-- How deeply a script may be nested, and how long a part of it may be. -/
def readingBudget : Nat :=
  1000000000

/-- Reads the statements of the next line under some aliases.  Gives the reader behind them, too. -/
def nextLine (aliases : Aliases) (documents : Array Phrase) (reader : Reader) :
    Except Malformed (Option (List Statement)) × Reader :=
  let start := { reader with
    aliases := aliases
    documents := documents
    isOver := false
    ahead := none
    takesAlias := false
    pending := [] }
  match firstLine readingBudget [] start with
  | .ok found after => (.ok found, after)
  | .error malformed after => (.error malformed, after)

/-- A text in which expansions count, as a phrase. -/
def expandable (source : Text) : Except Malformed Phrase :=
  let reading := textIn (enclosed readingBudget) readingBudget .document
    ⟨true, some ⟨none, false, false⟩⟩ .empty
  match reading (ofText source) with
  | .ok draft _ => .ok draft.phrase
  | .error malformed _ => .error malformed

end Reader

end Script

end InteractiveShell
