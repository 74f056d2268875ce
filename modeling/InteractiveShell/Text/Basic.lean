/-!
# Texts and bytes

A text is the list of its characters and a run of bytes is the list of its bytes.  Texts are what
people type and read: command lines, names, paths, messages.  Bytes are what terminals and files
carry.  `Text.encode` leads from the former to the latter; its value on a concatenation is the
concatenation of the values (`Text.encode_append`).
-/

namespace InteractiveShell

/-- A text is the list of its characters. -/
abbrev Text := List Char

/-- A run of bytes, as files and terminals carry it. -/
abbrev Bytes := List UInt8

/-- The byte of an ASCII character. -/
def ascii (character : Char) : UInt8 :=
  UInt8.ofNat character.toNat

namespace Text

/-- The UTF-8 encoding of a text. -/
def encode (text : Text) : Bytes :=
  text.flatMap String.utf8EncodeChar

/-- The number of bytes that a text takes in UTF-8. -/
def byteCount (text : Text) : Nat :=
  text.encode.length

@[simp]
theorem encode_nil : encode [] = [] :=
  rfl

@[simp]
theorem encode_cons (character : Char) (rest : Text) :
    encode (character :: rest) = String.utf8EncodeChar character ++ encode rest := by
  simp [encode]

@[simp]
theorem encode_append (left right : Text) :
    encode (left ++ right) = encode left ++ encode right := by
  simp [encode]

end Text

end InteractiveShell
