import InteractiveShell.Proofs.Completion.Candidate
import InteractiveShell.Proofs.FileSystem.Walking
import InteractiveShell.Proofs.SearchPath.Lookup

/-!
# Listing directories and probing paths

Completion lists the directories on the search path, while running a name probes one path after the
other and stops at the first executable.  Both see the same programs.  What is listed is found, in
the first directory that holds an executable of the name.  What is found in a directory that can be
listed is listed too, once for each time that such a directory stands on the search path.

Probing sees more than listing only in a directory that cannot be listed.  One is a directory that
may not be read: a path still leads through it to the programs that it holds.  Another one is the
empty directory, which stands for the working directory when a name is joined to it and for nothing
when it is listed.
-/

namespace InteractiveShell

namespace World

variable {world : World} {name directory : Text}

/-- Whether a directory can be listed. -/
def canList (world : World) (directory : Text) : Bool :=
  match world.files.list world.directory directory with
  | .ok _ => true
  | .error _ => false

/-- Whether a directory holds an executable of a name. -/
def holds (world : World) (directory name : Text) : Bool :=
  world.isExecutable (Path.join directory name)

/-- The first directory on the search path that holds an executable of a name. -/
def HoldsFirst (world : World) (directory name : Text) : Prop :=
  ∃ earlier later,
    world.searchDirectories = earlier ++ directory :: later ∧
      world.holds directory name = true ∧
        ∀ other ∈ earlier, world.holds other name = false

theorem exists_list_of_canList
    (readable : world.canList directory = true) :
    ∃ listed, world.files.list world.directory directory = .ok listed := by
  unfold canList at readable
  split at readable
  · exact ⟨_, by assumption⟩
  · cases readable

/-- The empty directory cannot be listed. -/
theorem ne_nil_of_canList (readable : world.canList directory = true) :
    directory ≠ [] := by
  rcases exists_list_of_canList readable with ⟨listed, found⟩
  rintro rfl
  simp [FileSystem.list, FileSystem.resolve, FileSystem.place,
    FileSystem.checkPath] at found

/-- A directory that can be listed lists the executables that it holds. -/
theorem mem_executablesIn_of_holds
    (entry : IsEntry name) (readable : world.canList directory = true)
    (held : world.holds directory name = true) :
    name ∈ world.executablesIn directory := by
  have given := ne_nil_of_canList readable
  rcases exists_list_of_canList readable with ⟨listed, found⟩
  rcases FileSystem.exists_directory_of_isExecutable_join entry given held
    with ⟨id, within, there, member, leads⟩
  rcases FileSystem.list_eq_ok_iff.mp found with
    ⟨other, same, resolved, thereToo, _, rfl⟩
  rw [leads directory given rfl, Except.ok.injEq] at resolved
  subst resolved
  rw [there, Option.some_inj] at thereToo
  subst thereToo
  exact mem_executablesIn_iff.mpr ⟨_, found, member, held⟩

/-- Two directories that give an executable the same path are listed alike. -/
theorem canList_eq_of_join_eq
    {other : Text} (entry : IsEntry name) (given : directory ≠ [])
    (joined : Path.join other name = Path.join directory name)
    (held : world.holds directory name = true) :
    world.canList other = world.canList directory := by
  have present : other ≠ [] := by
    rintro rfl
    rw [(Path.join_eq_self_iff entry.named.2).mpr rfl, eq_comm,
      Path.join_eq_self_iff entry.named.2] at joined
    exact given joined
  rcases FileSystem.exists_directory_of_isExecutable_join entry given held
    with ⟨id, _, _, _, leads⟩
  rw [canList, canList, FileSystem.list, FileSystem.list,
    leads other present joined, leads directory given rfl]

/-! ### The first hit -/

theorem exists_holdsFirst_of_find?_eq_some
    {path : Text} (flat : '/' ∉ name)
    (found : world.find? name = some path) :
    ∃ directory,
      world.HoldsFirst directory name ∧ path = Path.join directory name := by
  rw [find?, if_neg flat, findIn, List.find?_map, Option.map_eq_some_iff]
    at found
  rcases found with ⟨directory, first, joined⟩
  rcases List.find?_eq_some_iff_append.mp first with
    ⟨held, earlier, later, split, before⟩
  refine ⟨directory, ⟨earlier, later, split, held, ?_⟩, joined.symm⟩
  intro other member
  simpa [holds] using before other member

theorem exists_holdsFirst_of_mem_executablesIn
    (named : world.files.WellNamed)
    (searched : directory ∈ world.searchDirectories)
    (member : name ∈ world.executablesIn directory) :
    ∃ first,
      world.HoldsFirst first name ∧
        world.find? name = some (Path.join first name) := by
  have flat := (isName_of_mem_executablesIn named member).2
  rcases exists_find?_of_mem_executablesIn named searched member with
    ⟨path, found⟩
  rcases exists_holdsFirst_of_find?_eq_some flat found with
    ⟨first, holds, rfl⟩
  exact ⟨first, holds, found⟩

/-! ### How often a name is listed -/

theorem count_executablesIn
    (distinct : world.files.Distinct) (entry : IsEntry name) :
    (world.executablesIn directory).count name =
      if world.canList directory && world.holds directory name then 1
      else 0 := by
  split_ifs with counts
  · rcases Bool.and_eq_true_iff.mp counts with ⟨readable, held⟩
    have member := mem_executablesIn_of_holds entry readable held
    rcases exists_list_of_canList readable with ⟨listed, found⟩
    have once : (world.executablesIn directory).Nodup := by
      rw [executablesIn, found]
      exact (distinct.nodup_of_list found).filter _
    rw [once.count, if_pos member]
  · rw [List.count_eq_zero]
    intro member
    rcases mem_executablesIn_iff.mp member with ⟨listed, found, _, held⟩
    apply counts
    rw [canList, found]
    exact held

theorem count_executables
    (distinct : world.files.Distinct) (entry : IsEntry name)
    {beginning : Text} (begins : beginning <+: name)
    (directories : List Text) :
    (directories.flatMap fun directory =>
        (world.executablesIn directory).filter
          beginning.isPrefixOf).count name =
      directories.countP fun directory =>
        world.canList directory && world.holds directory name := by
  have kept : beginning.isPrefixOf name = true :=
    List.isPrefixOf_iff_prefix.mpr begins
  induction directories with
  | nil => rfl
  | cons directory rest ih =>
      rw [List.flatMap_cons, List.count_append, List.count_filter kept,
        count_executablesIn distinct entry, ih, List.countP_cons,
        Nat.add_comm]

/--
Completion and lookup agree on which programs there are.  Every name that is
listed begins as asked for, has no slash, and is found in the first directory
that holds an executable of that name.  Every name that is found in a
directory that can be listed is listed, as often as directories that can be
listed and hold an executable of that name stand on the search path.
-/
theorem executablesFrom_agrees_find?
    (named : world.files.WellNamed) (distinct : world.files.Distinct)
    (beginning : Text) :
    (∀ name ∈ world.executablesFrom beginning,
      beginning <+: name ∧ '/' ∉ name ∧
        ∃ directory,
          world.HoldsFirst directory name ∧
            world.find? name = some (Path.join directory name)) ∧
      ∀ name directory,
        IsEntry name →
          world.find? name = some (Path.join directory name) →
            world.canList directory = true → beginning <+: name →
              name ∈ world.executablesFrom beginning ∧
                (world.executablesFrom beginning).count name =
                  world.searchDirectories.countP fun other =>
                    world.canList other && world.holds other name := by
  constructor
  · intro name member
    rcases List.mem_flatMap.mp member with ⟨directory, searched, kept⟩
    rcases List.mem_filter.mp kept with ⟨listed, begins⟩
    refine ⟨List.isPrefixOf_iff_prefix.mp begins, ?_, ?_⟩
    · exact (isName_of_mem_executablesIn named listed).2
    · exact exists_holdsFirst_of_mem_executablesIn named searched listed
  · intro name directory entry found readable begins
    refine ⟨?_, count_executables distinct entry begins _⟩
    rcases exists_holdsFirst_of_find?_eq_some entry.named.2 found with
      ⟨first, ⟨earlier, later, split, held, _⟩, joined⟩
    -- The first hit may be another way to write the directory that can be listed.
    have heldToo : world.holds directory name = true := by
      rw [holds, joined]
      exact held
    have listable : world.canList first = true := by
      rw [canList_eq_of_join_eq entry (ne_nil_of_canList readable)
        joined.symm heldToo]
      exact readable
    refine
      List.mem_flatMap.mpr
        ⟨first, by rw [split]; simp, List.mem_filter.mpr ⟨?_, ?_⟩⟩
    · exact mem_executablesIn_of_holds entry listable held
    · exact List.isPrefixOf_iff_prefix.mpr begins

/--
A world whose search path has a directory that shadows a name, a missing
directory, the empty directory, a file, a directory that may not be read and
one directory twice.
-/
def withSearchPath : World :=
  { World.initial
      ⟨#[.directory ⟨[], 0,
          [("bin".toList, 1), ("lib".toList, 2), ("note".toList, 5),
            ("opt".toList, 6), ("tool".toList, 3)], false, true⟩,
        .directory ⟨["bin".toList], 0, [("tool".toList, 3)], false, true⟩,
        .directory ⟨["lib".toList], 0,
          [("tool".toList, 4), ("top".toList, 5)], false, true⟩,
        .file 0o755 [],
        .directory ⟨["lib".toList, "tool".toList], 2, [], false, true⟩,
        .file 0o644 [],
        .directory ⟨["opt".toList], 0, [("tool".toList, 3)], false, false⟩]⟩
    with
    environment := ⟨some "lib:gone:bin/::note:opt:bin".toList, none⟩ }

/--
Four of seven directories on the search path hold the executable, and two of
these can be listed.
-/
theorem executablesFrom_agrees_find?_twice :
    (withSearchPath.files.WellNamed ∧ withSearchPath.files.Distinct) ∧
      (withSearchPath.find? "tool".toList =
            some (Path.join "bin/".toList "tool".toList) ∧
          withSearchPath.canList "bin/".toList = true) ∧
        withSearchPath.holds [] "tool".toList = true ∧
          (withSearchPath.holds "opt".toList "tool".toList = true ∧
              withSearchPath.canList "opt".toList = false) ∧
            (withSearchPath.executablesFrom "to".toList).count
                "tool".toList =
              2 := by
  have suitable :
      withSearchPath.files.WellNamed ∧ withSearchPath.files.Distinct := by
    constructor <;> decide +kernel
  have found :
      withSearchPath.find? "tool".toList =
        some (Path.join "bin/".toList "tool".toList) := by
    decide +kernel
  have readable : withSearchPath.canList "bin/".toList = true := by
    decide +kernel
  have entry : IsEntry "tool".toList :=
    ⟨by decide, by decide, by decide⟩
  have agrees :=
    executablesFrom_agrees_find? suitable.1 suitable.2 "to".toList
  rcases agrees.2 "tool".toList "bin/".toList entry found readable
      (by decide) with
    ⟨_, often⟩
  refine
    ⟨suitable, ⟨found, readable⟩, by decide +kernel, by decide +kernel, ?_⟩
  rw [often]
  decide +kernel

end World

end InteractiveShell
