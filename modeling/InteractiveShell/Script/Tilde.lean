import InteractiveShell.Script.Process

/-!
# Tildes

A tilde in a phrase stands for the directory that is the user's home, if a variable tells which one
that is.
-/

namespace InteractiveShell

namespace Script

/-- The pieces of an unquoted literal with its tildes replaced.  A tilde counts at the start, and
behind a colon in a value, if it is alone there or a slash follows. -/
def tildePieces (home : Bytes) (inValue isLast : Bool) : Nat → Bool → Text → List Piece
  | 0, _, _ => []
  | _, _, [] => []
  | fuel + 1, atStart, text =>
    let ends (character : Char) : Bool := character = '/' || (inValue && character = ':')
    let name := text.takeWhile fun character => !ends character
    let counts := atStart && name = ['~'] && (isLast || name.length < text.length)
    let part := text.takeWhile fun character => !inValue || character ≠ ':'
    let shown := if counts then part.drop 1 else part
    let colon := (text.drop part.length).take 1
    let pieces :=
      (if counts && !home.isEmpty then [Piece.literal (textOf home) true] else []) ++
        (if (shown ++ colon).isEmpty then [] else [.literal (shown ++ colon) false])
    pieces ++ tildePieces home inValue isLast fuel true (text.drop (part.length + 1))

/-- A phrase with its tildes replaced by the directory that is the user's home. -/
def Process.withHome (process : Process) (inValue : Bool) (phrase : Phrase) : Phrase :=
  match process.value? "HOME".toList with
  | some home => go home true phrase
  | none => phrase
where
  go (home : Bytes) (atStart : Bool) : Phrase → Phrase
    | .literal text false :: rest =>
      let pieces :=
        if '~' ∈ text then
          tildePieces home inValue rest.isEmpty (text.length + 1) atStart text
        else [.literal text false]
      pieces ++ (if inValue then go home (text.getLast? = some ':') rest else rest)
    | piece :: rest => piece :: (if inValue then go home false rest else rest)
    | [] => []

end Script

end InteractiveShell
