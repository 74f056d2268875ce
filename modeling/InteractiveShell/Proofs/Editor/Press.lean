import InteractiveShell.Editor.Line
import Mathlib.Tactic.SplitIfs

/-!
# What a key does

`Edit.Pressed` lists all that can happen when a key is pressed, one rule for each case, with the
condition under which the case arises and the reaction to it.  `Edit.pressed_press` says that the
reaction to a key is always by one of these rules, so a fact about all keys is proved by going
through them.
-/

namespace InteractiveShell

/-- The keys that do something other than adding themselves to the buffer. -/
def Key.special : List Char :=
  [Key.tab, Key.interrupt, Key.endOfTransmission, Key.carriageReturn,
    Key.lineFeed, Key.delete, Key.backspace]

namespace Edit

/-- The same edit, not waiting for a second tab. -/
def rested (edit : Edit) : Edit :=
  { edit with tabState := .reading }

/-- What a key does, one rule for each case. -/
inductive Pressed (completer : Completer) (edit : Edit) :
    Char → Reaction → Prop where
  | unknown (nothing : completer edit.buffer.text = []) :
      Pressed completer edit Key.tab (.proceed edit.rested [Key.bell])
  | completed {only : Text}
      (single : completer edit.buffer.text = [only]) :
      Pressed completer edit Key.tab
        (edit.insert (remainder edit.buffer.text only ++ [' ']))
  | listed
      (several : 2 ≤ (completer edit.buffer.text).length)
      (second : edit.tabState = .awaitingSecondTab) :
      Pressed completer edit Key.tab
        (.finish (.listed edit.buffer.text)
          (newLine ++ listing (completer edit.buffer.text)))
  | unresolved
      (several : 2 ≤ (completer edit.buffer.text).length)
      (first : edit.tabState = .reading)
      (exhausted :
        remainder edit.buffer.text
          (longestCommonPrefix (completer edit.buffer.text)) = []) :
      Pressed completer edit Key.tab
        (.proceed { edit with tabState := .awaitingSecondTab } [Key.bell])
  | extended
      (several : 2 ≤ (completer edit.buffer.text).length)
      (first : edit.tabState = .reading)
      (resolvable :
        remainder edit.buffer.text
          (longestCommonPrefix (completer edit.buffer.text)) ≠ []) :
      Pressed completer edit Key.tab
        (edit.insert
          (remainder edit.buffer.text
            (longestCommonPrefix (completer edit.buffer.text))))
  | interrupted :
      Pressed completer edit Key.interrupt (.finish .interrupted newLine)
  | ended (empty : edit.buffer.text = []) :
      Pressed completer edit Key.endOfTransmission
        (.finish .endOfInput newLine)
  | notEnded (nonempty : edit.buffer.text ≠ []) :
      Pressed completer edit Key.endOfTransmission (.proceed edit.rested [])
  | entered {key : Char}
      (enters : key = Key.carriageReturn ∨ key = Key.lineFeed) :
      Pressed completer edit key
        (.finish (.submitted edit.buffer.text) newLine)
  | erased {key : Char} {shorter : Buffer}
      (erases : key = Key.delete ∨ key = Key.backspace)
      (popped : edit.buffer.pop? = some shorter) :
      Pressed completer edit key (.proceed ⟨shorter, .reading⟩ erasure)
  | notErased {key : Char}
      (erases : key = Key.delete ∨ key = Key.backspace)
      (empty : edit.buffer.pop? = none) :
      Pressed completer edit key (.proceed edit.rested [])
  | typed {key : Char} (ordinary : key ∉ Key.special) :
      Pressed completer edit key
        (.proceed ⟨edit.buffer.push key, .reading⟩ [key])

theorem pressed_tab (completer : Completer) (edit : Edit) :
    Pressed completer edit Key.tab
      (edit.complete (completer edit.buffer.text)) := by
  cases candidates : completer edit.buffer.text with
  | nil => exact .unknown candidates
  | cons first others =>
      cases others with
      | nil => exact .completed candidates
      | cons second others =>
          have several : 2 ≤ (completer edit.buffer.text).length := by
            simp [candidates]
          rw [← candidates]
          cases state : edit.tabState with
          | awaitingSecondTab =>
              have reaction :
                  edit.complete (completer edit.buffer.text) =
                    .finish (.listed edit.buffer.text)
                      (newLine ++ listing (completer edit.buffer.text)) := by
                simp [candidates, complete, state]
              rw [reaction]
              exact .listed several state
          | reading =>
              cases extension :
                  remainder edit.buffer.text
                    (longestCommonPrefix
                      (completer edit.buffer.text)) with
              | nil =>
                  have reaction :
                      edit.complete (completer edit.buffer.text) =
                        .proceed
                          { edit with tabState := .awaitingSecondTab }
                          [Key.bell] := by
                    rw [candidates] at extension ⊢
                    simp [complete, state, extension]
                  rw [reaction]
                  exact .unresolved several state extension
              | cons next more =>
                  have reaction :
                      edit.complete (completer edit.buffer.text) =
                        edit.insert
                          (remainder edit.buffer.text
                            (longestCommonPrefix
                              (completer edit.buffer.text))) := by
                    rw [candidates] at extension ⊢
                    simp [complete, state, extension]
                  rw [reaction]
                  exact .extended several state (by simp [extension])

/-- The reaction to a key is by one of the rules. -/
theorem pressed_press (completer : Completer) (edit : Edit) (key : Char) :
    Pressed completer edit key (edit.press completer key) := by
  unfold press
  split_ifs with tab interrupt transmission empty enters erases
  · subst key
    exact pressed_tab completer edit
  · subst key
    exact .interrupted
  · subst key
    exact .ended (by simpa using empty)
  · subst key
    exact .notEnded (by simpa using empty)
  · exact .entered enters
  · cases popped : edit.buffer.pop? with
    | none => exact .notErased erases popped
    | some shorter => exact .erased erases popped
  · refine .typed ?_
    simp only [Key.special, List.mem_cons, List.not_mem_nil, or_false,
      not_or] at enters erases ⊢
    exact ⟨tab, interrupt, transmission, enters.1, enters.2, erases⟩

theorem pressed_of_press_eq
    {completer : Completer} {edit : Edit} {key : Char} {reaction : Reaction}
    (pressed : edit.press completer key = reaction) :
    edit.Pressed completer key reaction := by
  rw [← pressed]
  exact pressed_press completer edit key

end Edit

end InteractiveShell
