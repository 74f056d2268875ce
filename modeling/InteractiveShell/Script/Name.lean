import InteractiveShell.Redirection

/-!
# Names in scripts

Scripts are made of bytes.  In the text of a script every character stands for one byte, so that a
script is read without loss whatever its bytes mean.  Names, and the words and characters with a
meaning of their own, are ASCII.
-/

namespace InteractiveShell

namespace Script

/-- The text in which every character stands for one byte. -/
def textOf (bytes : Bytes) : Text :=
  bytes.map fun byte => Char.ofNat byte.toNat

/-- The bytes for which the characters of a script's text stand. -/
def bytesOf (text : Text) : Bytes :=
  text.map ascii

/-- Whether a character may stand in a name. -/
def isNameCharacter (character : Char) : Bool :=
  character.isAlphanum || character = '_'

/-- Whether a text is a name. -/
def isName (text : Text) : Bool :=
  text.all isNameCharacter && text.head?.any fun first => !first.isDigit

/-- Whether a character alone names a parameter that is no variable. -/
def isSpecialParameter (character : Char) : Bool :=
  "@*#?-$!".toList.contains character || character.isDigit

/-- The words that are part of the grammar. -/
def reservedWords : List String :=
  ["!", "case", "do", "done", "elif", "else", "esac", "fi", "for", "if", "in", "then", "until",
    "while", "\x7b", "\x7d"]

/-- The utilities whose failure ends a script; no function can have the name of one. -/
def specialUtilities : List String :=
  [".", ":", "break", "continue", "eval", "exec", "exit", "export", "local", "readonly", "return",
    "set", "shift", "times", "trap", "unset"]

end Script

end InteractiveShell
