import InteractiveShell.Proofs.FileSystem.Walking

/-!
# Directories behind an opened file

Opening a path for writing takes no name out of a directory and moves no directory.  It empties a
regular file or adds a new one to a directory, and a regular file is no step on the way to a
directory.  So a path leads to a directory behind the opening exactly if it led there before.
-/

namespace InteractiveShell

namespace FileSystem

variable {files after : FileSystem} {current id : NodeId}

/-- A node that leads nowhere: neither a directory nor a symbolic link. -/
def IsLeaf (files : FileSystem) (id : NodeId) : Prop :=
  files.directory? id = none ∧
    ∀ target, files.node? id ≠ some (.link target)

/-- Directories and symbolic links are as they were, except for new names of nodes that lead
nowhere. -/
structure KeepsDirectories (files after : FileSystem) : Prop where
  lost : ∀ id, files.directory? id = none → after.directory? id = none
  kept :
    ∀ id held, files.directory? id = some held →
      ∃ added,
        after.directory? id =
            some { held with entries := held.entries ++ added } ∧
          ∀ entry ∈ added, after.IsLeaf entry.2
  link :
    ∀ id target,
      after.node? id = some (.link target) ↔
        files.node? id = some (.link target)

/-! ### The way to a directory -/

/-- A stop that is at a directory, or at a symbolic link that is still to be followed. -/
def Onward (files : FileSystem) : Stop → Prop
  | .arrived (.existing id) => files.directory? id ≠ none
  | .arrived (.vacant _ _) => False
  | .atLink _ _ _ => True

/-- The rest of a walk from what a name was found to lead to in a directory. -/
def enter (files : FileSystem) (current : NodeId) (name : Text)
    (rest : List Text) : Option NodeId → Except SystemError Stop
  | none =>
    if rest.isEmpty then .ok (.arrived (.vacant current name))
    else .error .noSuchEntry
  | some id =>
    match files.node? id with
    | some (.link target) => .ok (.atLink current target rest)
    | _ => files.walk .looking id rest

theorem walk_cons_eq_enter
    {directory : Directory}
    (found : files.directory? current = some directory)
    (name : Text) (rest : List Text) :
    files.walk .looking current (name :: rest) =
      if name = Path.here || name = Path.slash then
        files.walk .looking current rest
      else if name = Path.above then
        files.walk .looking directory.parent rest
      else if directory.removed then .error .noSuchEntry
      else if longestName < name.byteCount then .error .nameTooLong
      else
        files.enter current name rest (directory.entries.lookup name) :=
  walk_cons found name rest

theorem not_enter_none
    {stop : Stop} (onward : after.Onward stop) (current : NodeId)
    (name : Text) (rest : List Text) :
    files.enter current name rest none ≠ .ok stop := by
  rw [enter]
  split
  · rintro ⟨⟩
    exact onward
  · nofun

theorem IsLeaf.not_enter
    (leaf : files.IsLeaf id) {stop : Stop} (onward : files.Onward stop)
    (current : NodeId) (name : Text) (rest : List Text) :
    files.enter current name rest (some id) ≠ .ok stop := by
  rw [enter]
  split
  · rename_i target held
    exact absurd held (leaf.2 target)
  · intro walked
    cases rest with
    | nil =>
        cases walked
        exact onward leaf.1
    | cons next rest =>
        rw [walk, leaf.1] at walked
        cases walked

namespace KeepsDirectories

variable (keeps : KeepsDirectories files after)

include keeps

theorem enter_some_iff
    {stop : Stop} {rest : List Text}
    (walked :
      after.walk .looking id rest = .ok stop ↔
        files.walk .looking id rest = .ok stop)
    (current : NodeId) (name : Text) :
    after.enter current name rest (some id) = .ok stop ↔
      files.enter current name rest (some id) = .ok stop := by
  rw [enter, enter]
  split
  · rename_i target held
    rw [(keeps.link id target).mp held]
  · rename_i otherwise
    split
    · rename_i target held
      exact absurd ((keeps.link id target).mpr held) (otherwise target)
    · exact walked

theorem walk_iff
    {stop : Stop} (onward : after.Onward stop) (current : NodeId)
    (steps : List Text) :
    after.walk .looking current steps = .ok stop ↔
      files.walk .looking current steps = .ok stop := by
  induction steps generalizing current with
  | nil => exact Iff.rfl
  | cons name rest ih =>
      cases found : files.directory? current with
      | none => rw [walk, walk, found, keeps.lost current found]
      | some held =>
          rcases keeps.kept current held found with ⟨added, grown, leaves⟩
          rw [walk_cons_eq_enter grown, walk_cons_eq_enter found]
          split_ifs with stays up removed long
          · exact ih current
          · exact ih held.parent
          · exact Iff.rfl
          · exact Iff.rfl
          · rw [List.lookup_append]
            cases held.entries.lookup name with
            | some next =>
                exact keeps.enter_some_iff (ih next) current name
            | none =>
                -- What is behind a new name leads nowhere, so neither walk gets on.
                refine
                  iff_of_false ?_ (not_enter_none onward current name rest)
                cases reached : added.lookup name with
                | none => exact not_enter_none onward current name rest
                | some next =>
                    rcases List.lookup_eq_some_iff.mp reached with
                      ⟨front, back, split, _⟩
                    have leaf : after.IsLeaf next :=
                      leaves (name, next) (by simp [split])
                    exact leaf.not_enter onward current name rest

end KeepsDirectories

/-- Steps lead to a node without any symbolic link, or behind the first one of them. -/
theorem follow_eq_existing_iff {links : Nat} {steps : List Text} :
    files.follow .looking links current steps = .ok (.existing id) ↔
      files.walk .looking current steps = .ok (.arrived (.existing id)) ∨
        ∃ directory target rest fewer,
          links = fewer + 1 ∧
            files.walk .looking current steps =
                .ok (.atLink directory target rest) ∧
              files.follow .looking fewer (origin directory target)
                  (Path.steps target ++ rest) =
                .ok (.existing id) := by
  rw [follow]
  cases walked : files.walk .looking current steps with
  | error cause => simp
  | ok stop =>
      cases stop with
      | arrived place => simp
      | atLink directory target rest => cases links <;> simp

theorem KeepsDirectories.follow_iff
    (keeps : KeepsDirectories files after)
    (there : after.directory? id ≠ none) (links : Nat) (current : NodeId)
    (steps : List Text) :
    after.follow .looking links current steps = .ok (.existing id) ↔
      files.follow .looking links current steps = .ok (.existing id) := by
  have arrives : after.Onward (.arrived (.existing id)) := there
  have goesOn (directory : NodeId) (target : Text) (rest : List Text) :
      after.Onward (.atLink directory target rest) :=
    trivial
  induction links generalizing current steps with
  | zero =>
      rw [follow_eq_existing_iff, follow_eq_existing_iff,
        keeps.walk_iff arrives]
      simp
  | succ fewer ih =>
      rw [follow_eq_existing_iff, follow_eq_existing_iff,
        keeps.walk_iff arrives]
      simp only [keeps.walk_iff (goesOn _ _ _), Nat.add_right_cancel_iff,
        exists_eq_left', ih]

theorem resolveDirectory_eq_ok_iff {path : Text} :
    files.resolveDirectory current path = .ok id ↔
      files.resolve current path = .ok id ∧ files.directory? id ≠ none := by
  rw [resolveDirectory]
  cases files.resolve current path with
  | error cause => simp
  | ok reached =>
      show
        (if (files.directory? reached).isSome then _ else _) = _ ↔ _
      by_cases there : (files.directory? reached).isSome
      · rw [if_pos there]
        constructor
        · rintro ⟨⟩
          exact ⟨rfl, Option.isSome_iff_ne_none.mp there⟩
        · rintro ⟨⟨⟩, _⟩
          rfl
      · rw [if_neg there]
        constructor
        · nofun
        · rintro ⟨⟨⟩, held⟩
          exact absurd (Option.isSome_iff_ne_none.mpr held) there

/-- A path leads to the same directory as before. -/
theorem KeepsDirectories.resolveDirectory_iff
    (keeps : KeepsDirectories files after) (current : NodeId) (path : Text) :
    after.resolveDirectory current path = .ok id ↔
      files.resolveDirectory current path = .ok id := by
  rw [resolveDirectory_eq_ok_iff, resolveDirectory_eq_ok_iff,
    resolve_eq_ok_iff, resolve_eq_ok_iff]
  constructor
  · rintro ⟨⟨suitable, followed⟩, there⟩
    exact
      ⟨⟨suitable, (keeps.follow_iff there _ _ _).mp followed⟩,
        fun lost => there (keeps.lost id lost)⟩
  · rintro ⟨⟨suitable, followed⟩, held⟩
    have there : after.directory? id ≠ none := by
      rcases Option.ne_none_iff_exists'.mp held with ⟨old, found⟩
      rcases keeps.kept id old found with ⟨added, grown, _⟩
      simp [grown]
    exact ⟨⟨suitable, (keeps.follow_iff there _ _ _).mpr followed⟩, there⟩

/-! ### What an opening does to directories -/

theorem KeepsDirectories.refl (files : FileSystem) :
    KeepsDirectories files files where
  lost _ lost := lost
  kept _ held found := ⟨[], by simpa using found, nofun⟩
  link _ _ := Iff.rfl

/-- A regular file in the place of another one is no step on the way to a directory. -/
theorem keepsDirectories_replace
    {mode : Nat} {content : Bytes}
    (found : files.node? id = some (.file mode content))
    (later : Bytes) :
    KeepsDirectories files (files.replace id (.file mode later)) := by
  have replaced := node?_replace_self found (.file mode later)
  have same (other : NodeId) :
      (files.replace id (.file mode later)).directory? other =
        files.directory? other := by
    by_cases here : other = id
    · subst here
      rw [directory?, directory?, replaced, found]
    · rw [directory?, directory?, node?_replace_of_ne here]
  refine ⟨?_, ?_, ?_⟩
  · intro other lost
    rw [same, lost]
  · intro other held there
    exact ⟨[], by simpa [same] using there, nofun⟩
  · intro other target
    by_cases here : other = id
    · subst here
      rw [replaced, found]
      simp
    · rw [node?_replace_of_ne here]

/-- A new regular file is no step on the way to a directory. -/
theorem keepsDirectories_create
    {directory : Directory} (found : files.directory? id = some directory)
    (name : Text) (mode : Nat) (content : Bytes) :
    KeepsDirectories files
      (files.create id directory name (.file mode content)) := by
  have there := node?_eq_some_of_directory?_eq_some found
  have grown := node?_create_self name (.file mode content) found
  have new := node?_create_size name (.file mode content) found
  have fresh : files.node? files.nodes.size = none :=
    Array.getElem?_eq_none (Nat.le_refl _)
  refine ⟨?_, ?_, ?_⟩
  · intro other lost
    have apart : other ≠ id := by
      rintro rfl
      rw [found] at lost
      cases lost
    by_cases last : other = files.nodes.size
    · subst last
      rw [directory?, new]
    · rw [directory?, node?_create_of_ne apart last]
      exact lost
  · intro other held present
    by_cases here : other = id
    · subst here
      rw [found] at present
      cases present
      refine ⟨[(name, files.nodes.size)], ?_, ?_⟩
      · rw [directory?, grown]
      · intro entry member
        rw [List.mem_singleton.mp member]
        refine ⟨?_, ?_⟩
        · rw [directory?, new]
        · intro target
          rw [new]
          nofun
    · have older : other ≠ files.nodes.size := by
        rintro rfl
        rw [directory?, fresh] at present
        cases present
      refine ⟨[], ?_, nofun⟩
      rw [directory?, node?_create_of_ne here older, List.append_nil]
      exact present
  · intro other target
    by_cases here : other = id
    · subst here
      rw [grown, there]
      exact iff_of_false nofun nofun
    · by_cases last : other = files.nodes.size
      · subst last
        rw [new, fresh]
        exact iff_of_false nofun nofun
      · rw [node?_create_of_ne here last]

theorem keepsDirectories_of_openNode
    {mode : WriteMode} {handle : Handle}
    (opened : files.openNode id mode = .ok (handle, after)) :
    KeepsDirectories files after := by
  unfold openNode at opened
  split at opened
  · rename_i bits content found
    cases opened
    exact keepsDirectories_replace found []
  · cases opened
    exact .refl files
  · cases opened
    exact .refl files
  all_goals cases opened

/-- An opening leaves every directory where it is. -/
theorem keepsDirectories_of_openForWriting
    {path : Text} {mode : WriteMode} {handle : Handle}
    (opened :
      files.openForWriting current path mode = .ok (handle, after)) :
    KeepsDirectories files after := by
  unfold openForWriting at opened
  split at opened
  · cases opened
  · exact keepsDirectories_of_openNode opened
  · rename_i parent name placed
    unfold openNew at opened
    split at opened
    · cases opened
    · rename_i directory found
      cases opened
      exact keepsDirectories_create found name newFileMode []

end FileSystem

end InteractiveShell
