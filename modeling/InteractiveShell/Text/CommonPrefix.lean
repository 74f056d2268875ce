import InteractiveShell.Text.Basic

/-!
# Longest common beginning

`commonPrefix` keeps the characters on which two texts agree from the start, and
`longestCommonPrefix` narrows the first text of a list by each of the others in turn.  Both work on
characters, so a character of several bytes is kept whole or dropped whole.
-/

namespace InteractiveShell

/-- The longest text with which both texts begin. -/
def commonPrefix : Text → Text → Text
  | first :: left, second :: right =>
    if first = second then first :: commonPrefix left right else []
  | _, _ => []

/-- The longest text with which every text of a list begins; empty for the empty list. -/
def longestCommonPrefix : List Text → Text
  | [] => []
  | first :: rest => rest.foldl commonPrefix first

end InteractiveShell
