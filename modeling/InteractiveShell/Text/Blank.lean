import InteractiveShell.Text.Basic

/-!
# Blank characters

The characters that separate words are the 25 characters with the Unicode property `White_Space`.
They are kept as a table of ten ranges of code points, in increasing order.
-/

namespace InteractiveShell

/-- The ranges of code points with the property `White_Space`, both ends included. -/
def blankRanges : List (Nat × Nat) :=
  [(0x09, 0x0D), (0x20, 0x20), (0x85, 0x85), (0xA0, 0xA0), (0x1680, 0x1680),
    (0x2000, 0x200A), (0x2028, 0x2029), (0x202F, 0x202F), (0x205F, 0x205F), (0x3000, 0x3000)]

/-- Whether a character is white space. -/
def isBlank (character : Char) : Bool :=
  blankRanges.any fun range => range.1 ≤ character.toNat && character.toNat ≤ range.2

/-- The table holds 25 code points. -/
example : (blankRanges.map fun range => range.2 + 1 - range.1).sum = 25 := by
  decide

/-- The ranges lie apart and in increasing order. -/
example : blankRanges.Pairwise fun earlier later => earlier.2 + 1 < later.1 := by
  decide

/-- ASCII white space is blank. -/
theorem isBlank_of_isWhitespace {character : Char}
    (whitespace : character.isWhitespace = true) :
    isBlank character = true := by
  simp only [Char.isWhitespace, Bool.or_eq_true, decide_eq_true_eq] at whitespace
  rcases whitespace with ((rfl | rfl) | rfl) | rfl <;> decide

end InteractiveShell
