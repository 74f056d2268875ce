import InteractiveShell.Text.Blank

/-!
# Splitting a line into words

Outside quotes a backslash makes the next character literal and white space ends a word.  Single
quotes keep everything up to the next single quote.  Between double quotes a backslash is dropped
before a dollar sign, a back quote, a double quote or a backslash, and kept before anything else.
A quote that is still open at the end of the line is closed there, and a backslash that ends the
line is dropped.

A word remembers whether any part of it was quoted or escaped, because such a word is never an
operator.  A word without characters is dropped, quoted or not.
-/

namespace InteractiveShell

/-- A word of a line, its quotes and escapes resolved. -/
structure Word where
  text : Text
  /-- Whether a part of the word was quoted or escaped. -/
  quoted : Bool
deriving DecidableEq

/-- Where the scanner stands between two characters. -/
inductive Quoting where
  /-- Outside quotes. -/
  | bare
  /-- Outside quotes, behind a backslash. -/
  | escaped
  /-- Between single quotes. -/
  | single
  /-- Between double quotes. -/
  | double
  /-- Between double quotes, behind a backslash. -/
  | doubleEscaped
deriving DecidableEq

/-- Between double quotes a backslash only quotes these four characters. -/
def losesBackslash (character : Char) : Bool :=
  character = '$' || character = '\x60' || character = '"' || character = '\\'

/-- The scanner's state: where it stands and the word it is collecting. -/
structure Scanner where
  quoting : Quoting
  /-- The characters of the current word, the latest one first. -/
  collected : List Char
  quoted : Bool
deriving DecidableEq

namespace Scanner

/-- The state at the start of a line and behind a separator. -/
def fresh : Scanner :=
  ⟨.bare, [], false⟩

/-- The word collected so far, if it has any character. -/
def word? (scanner : Scanner) : Option Word :=
  match scanner.collected with
  | [] => none
  | collected => some ⟨collected.reverse, scanner.quoted⟩

/-- Adds a character to the current word. -/
def collect (scanner : Scanner) (character : Char) : Scanner :=
  { scanner with collected := character :: scanner.collected }

/-- Adds a character to the current word and goes on in a given place. -/
def collectInto (scanner : Scanner) (quoting : Quoting) (character : Char) : Scanner :=
  { scanner with quoting := quoting, collected := character :: scanner.collected }

/-- Passes a quote or a backslash, which marks the current word as quoted. -/
def pass (scanner : Scanner) (quoting : Quoting) : Scanner :=
  { scanner with quoting := quoting, quoted := true }

/-- Whether a character read in this state ends the current word. -/
def separates (scanner : Scanner) (character : Char) : Bool :=
  scanner.quoting = .bare && isBlank character

/-- The state behind a character. -/
def advance (scanner : Scanner) (character : Char) : Scanner :=
  match scanner.quoting with
  | .bare =>
    if character = '\\' then scanner.pass .escaped
    else if character = '\'' then scanner.pass .single
    else if character = '"' then scanner.pass .double
    else if isBlank character then fresh
    else scanner.collect character
  | .escaped => scanner.collectInto .bare character
  | .single =>
    if character = '\'' then scanner.pass .bare else scanner.collect character
  | .double =>
    if character = '\\' then scanner.pass .doubleEscaped
    else if character = '"' then scanner.pass .bare
    else scanner.collect character
  | .doubleEscaped =>
    if losesBackslash character then
      scanner.collectInto .double character
    else
      (scanner.collect '\\').collectInto .double character

/-- The words that end in the rest of a line, the one in progress first. -/
def words (scanner : Scanner) : Text → List Word
  | [] => scanner.word?.toList
  | character :: rest =>
    if scanner.separates character then
      match scanner.word? with
      | some word => word :: (scanner.advance character).words rest
      | none => (scanner.advance character).words rest
    else
      (scanner.advance character).words rest

end Scanner

/-- The words of a line. -/
def splitWords (line : Text) : List Word :=
  Scanner.fresh.words line

end InteractiveShell
