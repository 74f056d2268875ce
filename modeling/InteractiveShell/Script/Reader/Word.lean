import InteractiveShell.Script.Reader.Basic

/-!
# Reading the words of scripts

`textIn` reads characters, quotes and expansions up to what ends the text that encloses them.  How
the statements in a substitution are read is given to it.

Where the text of a script ends too early, what is told is what the innermost enclosure lacks.
-/

namespace InteractiveShell

namespace Script

/-- What encloses a text. -/
inductive Enclosure where
  /-- Nothing: a blank or a sign ends a word. -/
  | nothing
  /-- The braces of a parameter; `quoted` tells whether the text in them is quoted. -/
  | braces (quoted : Bool)
  /-- Double quotes, which may stand in braces. -/
  | quotes (inBraces : Bool)
  /-- The start and the end of a document. -/
  | document
  /-- The parentheses of an expression, with a number of others open in them. -/
  | parentheses (depth : Nat)

namespace Enclosure

/-- Whether a text is quoted. -/
def isQuoted : Enclosure → Bool
  | nothing => false
  | braces quoted => quoted
  | _ => true

/-- Whether a text stands in braces. -/
def isBraced : Enclosure → Bool
  | braces _ => true
  | quotes inBraces => inBraces
  | _ => false

/-- Whether a backslash in a quoted text escapes a character. -/
def escapes (enclosure : Enclosure) (inDocument : Bool) (character : Char) : Bool :=
  match character with
  | '\\' | '$' | '\x60' => true
  | '"' => enclosure.isBraced || !inDocument
  | '\x7d' => enclosure.isBraced
  | _ => false

end Enclosure

/-- How a text is read. -/
structure Manner where
  /-- Whether expansions count. -/
  expands : Bool
  /-- The document of which the text is a part. -/
  mark : Option DocumentMark

/-- Whether a character ends a word. -/
def endsWord (character : Char) : Bool :=
  " \t\n;|&()<>".toList.contains character

/-- The treatment that a character of an operator stands for. -/
def absence? : Char → Option Absence
  | '-' => some .useOperand
  | '=' => some .assignOperand
  | '?' => some .complain
  | '+' => some .useOperandOtherwise
  | _ => none

/-- What reads the statements of a substitution, up to the parenthesis that closes it if there is
one. -/
abbrev StatementReading := Bool → Reading (List Statement)

/-- What follows the name of a parameter in braces. -/
inductive ParameterSuffix where
  /-- The closing brace. -/
  | none
  /-- An operator with an operand. -/
  | treatment (inPattern : Bool) (treatment : Phrase → Treatment)
  /-- An operator that is cut short by the closing brace. -/
  | cutShort

namespace Reader

/-- Ends the reading of a text at the end of the script, or of its document. -/
def endText (enclosure : Enclosure) (manner : Manner) (draft : Draft) : Reading Draft :=
  match enclosure with
  | .nothing | .document => return draft
  | .parentheses _ => fail "Missing '))'"
  | .quotes _ | .braces true =>
    fail (if manner.mark.isSome then "Missing '\x7d'" else "Unterminated quoted string")
  | .braces false => fail "Missing '\x7d'"

/-- Passes characters as they are written, if they are the next ones. -/
def passes : Text → Reading Bool
  | [] => return true
  | character :: rest => do
    if (← next) = some character then passes rest else return false

/-- Passes tabs as they are written; tells whether there are any. -/
def passTabs : Nat → Reading Bool
  | 0 => return false
  | fuel + 1 => do
    let found ← next
    if found = some '\t' then
      let _ ← passTabs fuel
      return true
    else
      giveBack found
      return false

/-- Passes the line that ends a document, if it is next. -/
def passEnding (ending : Text) : Reading Bool := do
  let start ← get
  if ← passes ending then
    match ← next with
    | none => return true
    | some '\n' =>
      passLine
      return true
    | _ => pure ()
  set start
  return false

/-- Starts a line of a document.  Gives what of it is already read, with the latest character first;
nothing if the document ends.  A backslash directly behind tabs that are left out does not join
lines. -/
def startLine (fuel : Nat) (mark : DocumentMark) : Reading (Option Text) := do
  match mark.ending with
  | none => return some []
  | some ending =>
    if !mark.quoted then giveBack (← nextJoined)
    let leavesOut ← if mark.indented then passTabs fuel else pure false
    if ← passEnding ending then return none
    if leavesOut && !mark.quoted then
      let start ← get
      if ← passes ['\\', '\n'] then return some ['\n', '\\']
      set start
    return some []

/-- Passes the end of a line.  Gives what is read of the text then, with the latest character first;
nothing if the document of which the line is a part ends. -/
def passLineOf (fuel : Nat) (manner : Manner) : Reading (Option Text) := do
  passLine
  match manner.mark with
  | some mark => return (← startLine fuel mark).map fun begun => begun ++ ['\n']
  | none => return some ['\n']

/-- Reads the inside of single quotes, with the latest character first. -/
def singleQuoted (manner : Manner) : Nat → Text → Reading Text
  | 0, taken => return taken
  | fuel + 1, taken => do
    match ← next with
    | none => missing
    | some '\'' => return taken
    | some '\n' =>
      match ← passLineOf fuel manner with
      | some begun => singleQuoted manner fuel (begun ++ taken)
      | none => missing
    | some character => singleQuoted manner fuel (character :: taken)
where
  missing : Reading Text := do
    let _ ← endText (.quotes true) manner .empty
    return []

/-- Reads a document in which nothing is expanded, with the latest character first. -/
def verbatim (mark : DocumentMark) : Nat → Text → Reading Text
  | 0, taken => return taken
  | fuel + 1, taken => do
    match ← next with
    | none => return taken
    | some '\n' =>
      match ← passLineOf fuel ⟨false, some mark⟩ with
      | some begun => verbatim mark fuel (begun ++ taken)
      | none => return '\n' :: taken
    | some character => verbatim mark fuel (character :: taken)

/-- Reads the script between back quotes, with the latest character first.  The escapes of double
quotes count if the back quotes stand between them. -/
def backquotedText (quoted : Bool) : Nat → Text → Reading Text
  | 0, taken => return taken
  | fuel + 1, taken => do
    match ← nextJoined with
    | none => fail "EOF in backquote substitution"
    | some '\x60' => return taken
    | some '\n' =>
      passLine
      backquotedText quoted fuel ('\n' :: taken)
    | some '\\' =>
      match ← next with
      | none => backquotedText quoted fuel ('\\' :: taken)
      | some character =>
        if Enclosure.escapes (.quotes false) (!quoted) character then
          backquotedText quoted fuel (character :: taken)
        else backquotedText quoted fuel (character :: '\\' :: taken)
    | some character => backquotedText quoted fuel (character :: taken)

/-- Reads the statements between back quotes, which are a script of their own. -/
def backquoted (statements : StatementReading) (fuel : Nat) (quoted : Bool) :
    Reading (List Statement) := do
  let source ← backquotedText quoted fuel []
  let outer ← get
  set { ofText source.reverse with
    aliases := outer.aliases
    enclosing := outer.inUse
    lastWord := outer.lastWord
    documents := outer.documents }
  let found ← statements false
  modify fun inner => { outer with lastWord := inner.lastWord, documents := inner.documents }
  return found

/-- Reads the statements between parentheses.  Documents that begin behind the line wait. -/
def parenthesized (statements : StatementReading) : Reading (List Statement) := do
  let pending := (← get).pending
  modify fun reader => { reader with pending := [] }
  let found ← statements true
  modify fun reader => { reader with pending := pending }
  return found

/-- Reads the name of a parameter in braces, and tells whether its length is asked for. -/
def bracedName (fuel : Nat) : Reading (Text × Bool) := do
  let first ← nextJoined
  match first with
  | none => return ([], false)
  | some '\x7d' =>
    giveBack first
    return ([], false)
  | some '#' =>
    let second ← nextJoined
    match second with
    | none => return (['#'], false)
    | some character =>
      if isNameCharacter character then return (← name character, true)
      if character = '\x7d' then
        giveBack second
        return (['#'], false)
      let third ← nextJoined
      giveBack third
      if third = some '\x7d' then
        if isSpecialParameter character then return ([character], true)
        return ([], false)
      giveBack second
      return (['#'], false)
  | some character =>
    if isNameCharacter character then return (← name character, false)
    if isSpecialParameter character then return ([character], false)
    return ([], false)
where
  name (first : Char) : Reading Text := do
    let condition := if first.isDigit then Char.isDigit else isNameCharacter
    return (← takeWhile condition fuel [first]).reverse

/-- Reads what follows the name of a parameter in braces, up to its operand. -/
def parameterSuffix : Reading ParameterSuffix := do
  let found ← nextJoined
  match found with
  | some '\x7d' => return .none
  | some ':' =>
    match ← nextJoined with
    | some '\x7d' => return .cutShort
    | other =>
      match other.bind absence? with
      | some absence => return .treatment false (.ifAbsent absence true)
      | none => return .treatment false fun _ => .unknown
  | some '%' => return .treatment true (.trim .back (← takes '%'))
  | some '#' => return .treatment true (.trim .front (← takes '#'))
  | other =>
    match other.bind absence? with
    | some absence => return .treatment false (.ifAbsent absence false)
    | none => return .treatment false fun _ => .unknown

mutual

/-- Reads a text up to what ends it. -/
def textIn (statements : StatementReading) :
    Nat → Enclosure → Manner → Draft → Reading Draft
  | 0, enclosure, manner, draft => endText enclosure manner draft
  | fuel + 1, enclosure, manner, draft => do
    let quoted := enclosure.isQuoted
    let found ← nextJoined
    match found with
    | none => endText enclosure manner draft
    | some character =>
      match enclosure, character with
      | .braces _, '\x7d' => return draft
      | .quotes _, '"' => return draft
      | .parentheses depth, '(' =>
        textIn statements fuel (.parentheses (depth + 1)) manner (draft.push '(' true)
      | .parentheses (depth + 1), ')' =>
        textIn statements fuel (.parentheses depth) manner (draft.push ')' true)
      | .parentheses 0, ')' =>
        if ← takes ')' then return draft
        textIn statements fuel enclosure manner (draft.push ')' true)
      | .nothing, _ =>
        if endsWord character then
          giveBack found
          return draft
        let draft ← unquotedCharacter statements fuel enclosure manner draft character
        textIn statements fuel enclosure manner draft
      | .braces false, _ =>
        if character = '\n' then
          match ← passLineOf fuel manner with
          | some begun => textIn statements fuel enclosure manner (draft.pushAll begun false)
          | none => endText enclosure manner draft
        else
          let draft ← unquotedCharacter statements fuel enclosure manner draft character
          textIn statements fuel enclosure manner draft
      | _, '\n' =>
        match ← passLineOf fuel manner with
        | some begun => textIn statements fuel enclosure manner (draft.pushAll begun true)
        | none => endText enclosure manner (draft.push '\n' true)
      | _, '\\' =>
        let escaped ← next
        match escaped with
        | none => textIn statements fuel enclosure manner (draft.push '\\' true)
        | some escaped =>
          if enclosure.escapes manner.mark.isSome escaped then
            textIn statements fuel enclosure manner (draft.push escaped true)
          else textIn statements fuel enclosure manner (draft.pushAll [escaped, '\\'] true)
      | .braces true, '"' =>
        let draft ← textIn statements fuel (.quotes true) manner draft.quote
        textIn statements fuel enclosure manner draft
      | _, '$' =>
        let draft ← dollar statements fuel enclosure manner draft
        textIn statements fuel enclosure manner draft
      | _, '\x60' =>
        if manner.expands then
          let found ← backquoted statements fuel quoted
          textIn statements fuel enclosure manner (draft.add (.substitution found quoted))
        else textIn statements fuel enclosure manner (draft.push '\x60' quoted)
      | _, _ => textIn statements fuel enclosure manner (draft.push character quoted)

/-- Reads what a character begins in a text that is not quoted. -/
def unquotedCharacter (statements : StatementReading) :
    Nat → Enclosure → Manner → Draft → Char → Reading Draft
  | 0, _, _, draft, _ => return draft
  | fuel + 1, enclosure, manner, draft, character => do
    match character with
    | '\\' =>
      match ← next with
      | some escaped => return draft.push escaped true
      | none => return draft.push '\\' true
    | '\'' => return draft.pushAll (← singleQuoted manner fuel []) true
    | '"' =>
      return draft.appendQuoted
        (← textIn statements fuel (.quotes enclosure.isBraced) manner .empty)
    | '$' => dollar statements fuel enclosure manner draft
    | '\x60' =>
      if manner.expands then
        return draft.add (.substitution (← backquoted statements fuel false) false)
      else return draft.push '\x60' false
    | other => return draft.push other false

/-- Reads what a dollar sign begins. -/
def dollar (statements : StatementReading) :
    Nat → Enclosure → Manner → Draft → Reading Draft
  | 0, _, _, draft => return draft
  | fuel + 1, enclosure, manner, draft => do
    let quoted := enclosure.isQuoted
    if !manner.expands then
      return draft.push '$' quoted
    let found ← nextJoined
    match found with
    | some '(' =>
      if ← takes '(' then
        let expression ← textIn statements fuel (.parentheses 0) manner .empty
        return draft.add (.arithmetic expression.phrase quoted)
      return draft.add (.substitution (← parenthesized statements) quoted)
    | some '\x7b' => braced statements fuel enclosure manner draft
    | some character =>
      if isSpecialParameter character then
        return draft.add (.parameter [character] .plain quoted)
      if isNameCharacter character then
        let name := (← takeWhile isNameCharacter fuel [character]).reverse
        return draft.add (.parameter name .plain quoted)
      giveBack found
      return draft.push '$' quoted
    | none => return draft.push '$' quoted

/-- Reads a parameter behind its opening brace.  An operator that the closing brace cuts short
leaves the value as it is, and what follows up to the next closing brace is the last that belongs to
the phrase. -/
def braced (statements : StatementReading) :
    Nat → Enclosure → Manner → Draft → Reading Draft
  | 0, _, _, draft => return draft
  | fuel + 1, enclosure, manner, draft => do
    let quoted := enclosure.isQuoted
    let operand (inPattern : Bool) (draft : Draft) : Reading Draft :=
      textIn statements fuel (.braces (quoted && !inPattern)) manner draft
    let (name, isMeasured) ← bracedName fuel
    if isMeasured || name.isEmpty then
      let rest ← operand false .empty
      let treatment :=
        if isMeasured && rest.phrase.isEmpty then Treatment.length else .unknown
      return draft.add (.parameter name treatment quoted)
    match ← parameterSuffix with
    | .none => return draft.add (.parameter name .plain quoted)
    | .treatment inPattern treatment =>
      let operand ← operand inPattern .empty
      return draft.add (.parameter name (treatment operand.phrase) quoted)
    | .cutShort =>
      let draft ← operand false (draft.add (.parameter name .plain quoted))
      return { draft with isClosed := true }

end

end Reader

end Script

end InteractiveShell
