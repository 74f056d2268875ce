import InteractiveShell.Script.Reader.Word

/-!
# Reading the tokens of scripts

A token is a word, a sign, a redirection or the end of a line.  Whether a word is one of the grammar
or an alias depends on where it stands, which is told by what reads the token.  A token that was
looked at can be put back.
-/

namespace InteractiveShell

namespace Script

/-- How a token is read. -/
structure Position where
  /-- Whether ends of lines in front of the token are passed over. -/
  skipsLines : Bool
  /-- Whether words of the grammar are told from others. -/
  hasGrammar : Bool
  /-- Whether an alias is replaced by its text. -/
  hasAliases : Bool

namespace Position

/-- Behind words of a command. -/
def argument : Position :=
  ⟨false, false, false⟩

/-- Behind assignments and redirections. -/
def leading : Position :=
  ⟨false, false, true⟩

/-- Where a command can start. -/
def command : Position :=
  ⟨false, true, true⟩

/-- Where a command can start on this line or on a later one. -/
def commandBelow : Position :=
  ⟨true, true, true⟩

/-- Where a branch of a selection can start. -/
def branch : Position :=
  ⟨true, true, false⟩

end Position

/-- A text between double quotes. -/
def quote (text : String) : String :=
  "\"" ++ text ++ "\""

/-- A sign as it is written. -/
def Mark.text : Mark → String
  | both => "&&"
  | either => "||"
  | branchEnd => ";;"
  | separator => ";"
  | background => "&"
  | pipe => "|"
  | opening => "("
  | closing => ")"

/-- A token as complaints name it. -/
def Token.description : Token → String
  | .word _ => "word"
  | .reserved found => quote found
  | .mark found => quote found.text
  | .redirect _ _ | .document _ _ => "redirection"
  | .lineEnd => "newline"
  | .scriptEnd => "end of file"

/-- Whether a token ends a list of statements. -/
def Token.endsList : Token → Bool
  | .mark found => found = .closing || found = .branchEnd
  | .reserved found =>
    ["do", "done", "elif", "else", "esac", "fi", "then", "\x7d"].contains found
  | .scriptEnd => true
  | _ => false

namespace Reader

/-- Complains about a token. -/
def unexpected {α : Type} (token : Token) : Reading α :=
  fail (token.description ++ " unexpected")

/-- Complains about a token in the place of something else. -/
def missing {α : Type} (expected : String) (token : Token) : Reading α :=
  fail (token.description ++ " unexpected (expecting " ++ expected ++ ")")

/-- Puts a token back. -/
def putBack (token : Token) : Reading Unit :=
  modify fun reader => { reader with ahead := some token }

/-- Passes what is left of a line. -/
def passComment : Nat → Reading Unit
  | 0 => return ()
  | fuel + 1 => do
    let found ← next
    if found.all fun character => character = '\n' then giveBack found else passComment fuel

/-- Reads a redirection behind its descriptor. -/
def redirection (descriptor : Option Nat) : Reading Token := do
  let output (kind : RedirectKind) : Token := .redirect (descriptor.getD 1) kind
  let input (kind : RedirectKind) : Token := .redirect (descriptor.getD 0) kind
  let angle ← next
  let found ← nextJoined
  match angle, found with
  | some '>', some '>' => return output (.output .append true)
  | some '>', some '|' => return output (.output .truncate true)
  | some '>', some '&' => return output .duplicate
  | some '>', _ =>
    giveBack found
    return output (.output .truncate false)
  | _, some '<' => return .document (descriptor.getD 0) (← takes '-')
  | _, some '&' => return input .duplicate
  | _, some '>' => return input .both
  | _, _ =>
    giveBack found
    return input .input

/-- Reads a word, or a redirection with its descriptor. -/
def wordOrRedirection (statements : StatementReading) (fuel : Nat) (manner : Manner) :
    Reading Token := do
  let phrase := (← textIn statements fuel .nothing manner .empty).phrase
  let descriptor : Option (Option Nat) :=
    match phrase with
    | [] => some none
    | [.literal [digit] false] =>
      if digit.isDigit then some (some (digit.toNat - '0'.toNat)) else none
    | _ => none
  match (← get).text, descriptor with
  | '<' :: _, some descriptor => redirection descriptor
  | '>' :: _, some descriptor => redirection descriptor
  | _, _ =>
    modify fun reader => { reader with lastWord := phrase }
    return .word phrase

/-- Reads the next token whatever it stands for. -/
def rawToken (statements : StatementReading) (manner : Manner) : Nat → Reading Token
  | 0 => return .scriptEnd
  | fuel + 1 => do
    let mark (mark : Mark) : Reading Token := return .mark mark
    let found ← nextJoined
    match found with
    | none => return .scriptEnd
    | some ' ' | some '\t' => rawToken statements manner fuel
    | some '#' =>
      passComment fuel
      rawToken statements manner fuel
    | some '\n' =>
      passLine
      return .lineEnd
    | some '&' => if ← takes '&' then mark .both else mark .background
    | some '|' => if ← takes '|' then mark .either else mark .pipe
    | some ';' => if ← takes ';' then mark .branchEnd else mark .separator
    | some '(' => mark .opening
    | some ')' => mark .closing
    | some _ =>
      giveBack found
      wordOrRedirection statements fuel manner

/-- Reads the documents that begin on this line. -/
def readDocuments (statements : StatementReading) (fuel : Nat) : Reading Unit := do
  let pending := (← get).pending
  modify fun reader => { reader with pending := [] }
  pending.forM fun (mark, number) => do
    let draft ←
      match ← startLine fuel mark with
      | none => pure Draft.empty
      | some begun =>
        if mark.quoted then pure (Draft.empty.pushAll (← verbatim mark fuel begun) true)
        else
          let start := if begun.isEmpty then Draft.empty else Draft.empty.pushAll begun true
          textIn statements fuel .document ⟨true, some mark⟩ start
    modify fun reader =>
      { reader with documents := reader.documents.setIfInBounds number draft.phrase }

/-- Reads the next token, or takes the one that was put back. -/
def anyToken (statements : StatementReading) (fuel : Nat) : Reading Token := do
  match (← get).ahead with
  | some token =>
    modify fun reader => { reader with ahead := none }
    return token
  | none => rawToken statements ⟨true, none⟩ fuel

/-- Passes ends of lines, with the documents that begin behind them. -/
def tokenBelow (statements : StatementReading) : Nat → Reading Token
  | 0 => return .scriptEnd
  | fuel + 1 => do
    match ← anyToken statements fuel with
    | .lineEnd =>
      readDocuments statements fuel
      tokenBelow statements fuel
    | other => return other

/-- Reads a text in the place of an alias. -/
def replace (word text : Text) : Reading Unit :=
  modify fun reader =>
    let isOpen := text.getLast?.any fun character => character = ' ' || character = '\t'
    if text.isEmpty then reader
    else
      { reader with
        text := text
        replacements := ⟨word :: reader.ended, reader.text, isOpen⟩ :: reader.replacements
        ended := [] }

/-- Reads the next token. -/
def token (statements : StatementReading) (position : Position) : Nat → Reading Token
  | 0 => return .scriptEnd
  | fuel + 1 => do
    let found ←
      if position.skipsLines then tokenBelow statements fuel else anyToken statements fuel
    let reader ← get
    let plain? := if let .word phrase := found then phrase.plainText? else none
    let keep (token : Token) : Reading Token := do
      modify fun reader => { reader with takesAlias := false }
      return token
    match plain? with
    | none => keep found
    | some word =>
      let name := String.ofList word
      if position.hasGrammar && reservedWords.contains name then keep (.reserved name)
      else if position.hasAliases || reader.takesAlias then
        let value? := if reader.inUse.contains word then none else reader.aliases.lookup word
        match value? with
        | some value =>
          replace word value
          token statements position fuel
        | none => keep found
      else keep found

end Reader

end Script

end InteractiveShell
