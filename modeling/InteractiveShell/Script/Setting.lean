import InteractiveShell.Text.Basic

/-!
# Settings of a script

What a script can choose about its own interpretation, by letter or by name.
-/

namespace InteractiveShell

namespace Script

/-- What a script can choose about its interpretation. -/
inductive Setting where
  /-- A failing command ends the script. -/
  | failFast
  /-- Patterns of paths stay as they are. -/
  | keepPatterns
  /-- Statements are read and not run. -/
  | readOnly
  /-- Commands are shown before they run. -/
  | trace
  /-- Files that exist are not emptied. -/
  | keepFiles
  /-- Variables are exported when they are assigned. -/
  | exportAll
  /-- A parameter without a value ends the script. -/
  | requireValues
  /-- The lines of a script are shown as they are read. -/
  | verbose
  /-- The script asks for each of its lines. -/
  | interactive
  /-- The script goes on at its end. -/
  | ignoreEnd
  /-- Jobs are controlled from a terminal. -/
  | monitor
  /-- The script comes from standard input. -/
  | fromInput
  /-- A choice without an effect on scripts. -/
  | idle (name : String)
deriving DecidableEq

namespace Setting

/-- The settings with their letters, where they have one, and their names. -/
def table : List (Option Char × String × Setting) :=
  [(some 'e', "errexit", failFast), (some 'f', "noglob", keepPatterns), (some 'I', "ignoreeof", ignoreEnd),
    (some 'i', "interactive", interactive), (some 'm', "monitor", monitor),
    (some 'n', "noexec", readOnly), (some 's', "stdin", fromInput), (some 'x', "xtrace", trace),
    (some 'v', "verbose", verbose), idling 'V' "vi", idling 'E' "emacs", (some 'C', "noclobber", keepFiles), (some 'a', "allexport", exportAll),
    idling 'b' "notify", (some 'u', "nounset", requireValues), idling 'p' "privileged",
    (none, "nolog", idle "nolog"), (none, "debug", idle "debug")]
where
  idling (letter : Char) (name : String) : Option Char × String × Setting :=
    (some letter, name, idle name)

/-- The setting of a letter. -/
def ofLetter? (letter : Char) : Option Setting :=
  (table.find? fun entry => entry.1 = some letter).map fun entry => entry.2.2

/-- The setting of a name. -/
def ofName? (name : String) : Option Setting :=
  (table.find? fun entry => entry.2.1 = name).map fun entry => entry.2.2

/-- The letters of the chosen settings. -/
def letters (chosen : List Setting) : Text :=
  table.reverse.filterMap fun (letter, _, setting) =>
    if chosen.contains setting then letter else none

/-- Chooses a setting or drops it. -/
def choose (chosen : List Setting) (setting : Setting) (wanted : Bool) : List Setting :=
  let others := chosen.filter fun other => other ≠ setting
  if wanted then setting :: others else others

end Setting

end Script

end InteractiveShell
