import InteractiveShell.Proofs.FileSystem.Naming

/-!
# Walking in two parts

Whoever follows steps to a node that exists follows the first of them to a node and the others from
there, with as many links left to follow as the first steps did not use up.  So a path to a name
below a directory leads where that name leads from the directory, and what can be executed in a
directory is one of its entries.
-/

namespace InteractiveShell

/-- A name that stands for an entry of a directory and not for a way to stay or to go up. -/
structure IsEntry (name : Text) : Prop where
  named : IsName name
  ne_here : name ≠ Path.here
  ne_above : name ≠ Path.above

namespace FileSystem

variable {files : FileSystem} {current id : NodeId}

/-- One step out of a directory. -/
theorem walk_cons
    {directory : Directory}
    (found : files.directory? current = some directory)
    (name : Text) (rest : List Text) :
    files.walk .looking current (name :: rest) =
      if name = Path.here || name = Path.slash then
        files.walk .looking current rest
      else if name = Path.above then
        files.walk .looking directory.parent rest
      else if directory.removed then .error .noSuchEntry
      else if longestName < name.byteCount then .error .nameTooLong
      else
        match directory.entries.lookup name with
        | none =>
            if rest.isEmpty then .ok (.arrived (.vacant current name))
            else .error .noSuchEntry
        | some id =>
            match files.node? id with
            | some (.link target) => .ok (.atLink current target rest)
            | _ => files.walk .looking id rest := by
  have unhindered :
      ¬ (Purpose.looking = Purpose.writing && rest = [Path.slash]) = true := by
    simp
  rw [walk, found]
  exact if_neg unhindered

theorem walk_append (files : FileSystem) (current : NodeId)
    (front back : List Text) :
    files.walk .looking current (front ++ back) =
      match files.walk .looking current front with
      | .error cause => .error cause
      | .ok (.arrived (.existing middle)) => files.walk .looking middle back
      | .ok (.arrived (.vacant parent name)) =>
          if back.isEmpty then .ok (.arrived (.vacant parent name))
          else .error .noSuchEntry
      | .ok (.atLink directory target rest) =>
          .ok (.atLink directory target (rest ++ back)) := by
  fun_induction FileSystem.walk files .looking current front with
  | case1 current => rfl
  | case2 current name rest lost =>
      rw [List.cons_append, walk, lost]
  | case3 current name rest directory found early => simp at early
  | case4 current name rest directory found early stays ih =>
      rw [List.cons_append, walk_cons found, if_pos stays, ih]
  | case5 current rest directory found early stays ih =>
      rw [List.cons_append, walk_cons found, if_neg stays, if_pos rfl, ih]
  | case6 current name rest directory found early stays up gone =>
      rw [List.cons_append, walk_cons found, if_neg stays, if_neg up,
        if_pos gone]
  | case7 current name rest directory found early stays up kept long =>
      rw [List.cons_append, walk_cons found, if_neg stays, if_neg up,
        if_neg kept, if_pos long]
  | case8 current name rest directory found early stays up kept short
      missing last =>
      rw [List.cons_append, walk_cons found, if_neg stays, if_neg up,
        if_neg kept, if_neg short, missing, List.isEmpty_iff.mp last]
      rfl
  | case9 current name rest directory found early stays up kept short
      missing more =>
      have longer : ¬ (rest ++ back).isEmpty = true := by
        rw [List.isEmpty_iff, List.append_eq_nil_iff, not_and]
        intro last
        exact absurd (List.isEmpty_iff.mpr last) more
      rw [List.cons_append, walk_cons found, if_neg stays, if_neg up,
        if_neg kept, if_neg short, missing]
      exact if_neg longer
  | case10 current name rest directory found early stays up kept short id
      held target link =>
      rw [List.cons_append, walk_cons found, if_neg stays, if_neg up,
        if_neg kept, if_neg short, held]
      simp only [link]
  | case11 current name rest directory found early stays up kept short id
      held other ih =>
      rw [List.cons_append, walk_cons found, if_neg stays, if_neg up,
        if_neg kept, if_neg short, held, ← ih]
      dsimp only
      split
      · rename_i target link
        exact absurd link (other target)
      · rfl

/-- Steps to a node that exists pass the node at the end of the first of them. -/
theorem exists_follow_of_append
    {links : Nat} {front back : List Text}
    (followed :
      files.follow .looking links current (front ++ back) =
        .ok (.existing id)) :
    ∃ middle,
      files.follow .looking links current front = .ok (.existing middle) := by
  fun_induction FileSystem.follow files .looking links current front with
  | case1 links current steps cause walked =>
      rw [follow, walk_append, walked] at followed
      cases followed
  | case2 links current steps place walked =>
      cases place with
      | existing middle => exact ⟨middle, rfl⟩
      | vacant parent name =>
          rw [follow, walk_append, walked] at followed
          dsimp only at followed
          split_ifs at followed
          cases followed
  | case3 current steps directory target rest walked =>
      rw [follow, walk_append, walked] at followed
      cases followed
  | case4 current steps directory target rest walked fewer ih =>
      rw [follow, walk_append, walked] at followed
      dsimp only at followed
      rw [← List.append_assoc] at followed
      exact ih followed

/-- Behind the node that the first steps lead to, the others are followed from there. -/
theorem exists_follow_append_eq
    {links : Nat} {middle : NodeId} {front : List Text}
    (followed :
      files.follow .looking links current front = .ok (.existing middle)) :
    ∃ fewer, ∀ back,
      files.follow .looking links current (front ++ back) =
        files.follow .looking fewer middle back := by
  fun_induction FileSystem.follow files .looking links current front with
  | case1 | case3 => cases followed
  | case2 links current steps place walked =>
      cases followed
      refine ⟨links, fun back => ?_⟩
      rw [follow, walk_append, walked]
      dsimp only
      rw [← follow]
  | case4 current steps directory target rest walked fewer ih =>
      rcases ih followed with ⟨left, behind⟩
      refine ⟨left, fun back => ?_⟩
      rw [follow, walk_append, walked]
      dsimp only
      rw [← List.append_assoc, behind]

/-! ### Entries -/

theorem follow_slash
    {directory : Directory} (found : files.directory? id = some directory)
    (links : Nat) :
    files.follow .looking links id [Path.slash] = .ok (.existing id) := by
  rw [follow, walk_cons found, if_pos (by decide), walk]

theorem exists_mem_of_follow_entry
    {links : Nat} {middle : NodeId} {name : Text} (entry : IsEntry name)
    (followed :
      files.follow .looking links middle [name] = .ok (.existing id)) :
    ∃ directory,
      files.directory? middle = some directory ∧
        name ∈ directory.entries.map Prod.fst := by
  cases found : files.directory? middle with
  | none =>
      rw [follow, walk, found] at followed
      cases followed
  | some directory =>
      refine ⟨directory, rfl, ?_⟩
      have moves : ¬ (name = Path.here || name = Path.slash) = true := by
        simp [entry.ne_here, Path.slash, entry.named.1]
      rw [follow, walk_cons found, if_neg moves, if_neg entry.ne_above]
        at followed
      by_cases removed : directory.removed = true
      · rw [if_pos removed] at followed
        cases followed
      · by_cases long : longestName < name.byteCount
        · rw [if_neg removed, if_pos long] at followed
          cases followed
        · rw [if_neg removed, if_neg long] at followed
          cases held : directory.entries.lookup name with
          | none =>
              rw [held] at followed
              cases followed
          | some target =>
              rcases List.lookup_eq_some_iff.mp held with
                ⟨front, back, entries, _⟩
              rw [entries, List.map_append]
              exact List.mem_append_right _ List.mem_cons_self

theorem checkPath_of_isPrefix
    {front path : Text} (nonempty : front ≠ []) (begins : front <+: path)
    (suitable : checkPath path = .ok ()) :
    checkPath front = .ok () := by
  rw [checkPath] at suitable ⊢
  split_ifs at suitable with nul empty long
  have shorter : front.byteCount ≤ path.byteCount := by
    rcases begins with ⟨rest, rfl⟩
    rw [Text.byteCount, Text.byteCount, Text.encode_append,
      List.length_append]
    exact Nat.le_add_right _ _
  rw [if_neg fun member => nul (begins.subset member),
    if_neg (by simpa using nonempty), if_neg (by omega)]

theorem resolve_eq_ok_iff {path : Text} :
    files.resolve current path = .ok id ↔
      checkPath path = .ok () ∧
        files.follow .looking linkLimit (origin current path)
            (Path.steps path) =
          .ok (.existing id) := by
  rw [resolve, place]
  rcases checked : checkPath path with cause | _
  · simp
  · cases followed :
        files.follow .looking linkLimit (origin current path)
          (Path.steps path) with
    | error cause => simp
    | ok place => cases place <;> simp

/-- The names in a path that lead to a directory lead there with or without a slash behind them. -/
theorem follow_steps_of_follow_names
    {directory : Directory} {links : Nat} {path : Text}
    (found : files.directory? id = some directory)
    (followed :
      files.follow .looking links current (Path.names path) =
        .ok (.existing id)) :
    files.follow .looking links current (Path.steps path) =
      .ok (.existing id) := by
  rw [Path.steps]
  split_ifs
  · rcases exists_follow_append_eq followed with ⟨fewer, behind⟩
    rw [behind, follow_slash found]
  · rw [List.append_nil, followed]

/--
What can be executed in a directory is one of its entries.  Its path says which
directory that is, however the path to the directory itself is written.
-/
theorem exists_directory_of_isExecutable_join
    {directory name : Text} (entry : IsEntry name)
    (given : directory ≠ [])
    (executable :
      files.isExecutable current (Path.join directory name) = true) :
    ∃ middle held,
      files.directory? middle = some held ∧
        name ∈ held.entries.map Prod.fst ∧
          ∀ other, other ≠ [] →
            Path.join other name = Path.join directory name →
              files.resolve current other = .ok middle := by
  have flat := entry.named.2
  cases resolved : files.resolve current (Path.join directory name) with
  | error cause => simp [isExecutable, resolved] at executable
  | ok id =>
      rcases resolve_eq_ok_iff.mp resolved with ⟨suitable, followed⟩
      have steps := Path.steps_join given entry.named.1 flat
      rw [steps] at followed
      rcases exists_follow_of_append followed with ⟨middle, arrives⟩
      rcases exists_follow_append_eq arrives with ⟨fewer, behind⟩
      rw [behind] at followed
      rcases exists_mem_of_follow_entry entry followed with
        ⟨held, found, member⟩
      refine ⟨middle, held, found, member, ?_⟩
      intro other present joined
      have begins : other <+: Path.join directory name := by
        rw [← joined]
        exact Path.prefix_join present flat
      have names : Path.names directory = Path.names other := by
        rw [← joined, Path.steps_join present entry.named.1 flat] at steps
        exact (List.append_cancel_right steps).symm
      have start :
          origin current (Path.join directory name) =
            origin current other := by
        rw [origin, origin, Path.isAbsolute_of_isPrefix present begins]
      rw [start, names] at arrives
      exact
        resolve_eq_ok_iff.mpr
          ⟨checkPath_of_isPrefix present begins suitable,
            follow_steps_of_follow_names found arrives⟩

end FileSystem

end InteractiveShell
