import InteractiveShell.Proofs.SearchPath.Agreement

/-!
# Search paths joined by a colon

Joining two values of `PATH` with a colon joins their directories.  A name is looked up over both by
looking it up over the first one and, if nothing is found there, over the second one; executables
are listed in that order too.  So what is found stays found when directories are added at the end.

What is found over any value is in the first directory that holds it.  A name with a slash is not
looked for at all, so no value of `PATH` makes a difference to it.
-/

namespace InteractiveShell

namespace World

/-- The same world with another value of `PATH`, or with none. -/
def withPath (world : World) (path? : Option Text) : World :=
  { world with environment := { world.environment with path := path? } }

variable {world : World} {name : Text}

@[simp]
theorem searchDirectories_withPath (world : World) (path? : Option Text) :
    (world.withPath path?).searchDirectories =
      InteractiveShell.searchDirectories path? :=
  rfl

theorem find?_withPath_of_flat
    (flat : '/' ∉ name) (path? : Option Text) :
    (world.withPath path?).find? name =
      world.findIn name (InteractiveShell.searchDirectories path?) :=
  if_neg flat

theorem find?_of_slash (slash : '/' ∈ name) :
    world.find? name =
      if world.isExecutable name then some name else none :=
  if_pos slash

theorem findIn_append
    (world : World) (name : Text) (front back : List Text) :
    world.findIn name (front ++ back) =
      (world.findIn name front).or (world.findIn name back) := by
  rw [findIn, List.map_append, List.find?_append]
  rfl

theorem searchDirectories_join (front back : Text) :
    InteractiveShell.searchDirectories (some (front ++ ':' :: back)) =
      InteractiveShell.searchDirectories (some front) ++
        InteractiveShell.searchDirectories (some back) := by
  simp only [InteractiveShell.searchDirectories, List.splitOn_eq_splitOnP]
  exact List.splitOnP_append_cons front back (beq_self_eq_true ':')

/-- What is found is in the first directory that holds it, and is found if there is one. -/
theorem find?_eq_some_iff_holdsFirst {path : Text} (flat : '/' ∉ name) :
    world.find? name = some path ↔
      ∃ directory,
        world.HoldsFirst directory name ∧
          path = Path.join directory name := by
  constructor
  · exact exists_holdsFirst_of_find?_eq_some flat
  · rintro ⟨directory, ⟨earlier, later, split, held, before⟩, rfl⟩
    have found : world.isExecutable (Path.join directory name) = true := held
    have missed :
        (earlier.map fun other => Path.join other name).find?
            world.isExecutable =
          none := by
      rw [List.find?_map, Option.map_eq_none_iff, List.find?_eq_none]
      intro other member
      exact Bool.eq_false_iff.mp (before other member)
    rw [find?, if_neg flat, split, findIn_append, findIn, findIn, missed,
      Option.none_or, List.map_cons, List.find?_cons_of_pos found]

/-- Lookups over the search path go from left to right. -/
structure LooksLeftmost (world : World) (front back : Text) : Prop where
  directories :
    InteractiveShell.searchDirectories (some (front ++ ':' :: back)) =
      InteractiveShell.searchDirectories (some front) ++
        InteractiveShell.searchDirectories (some back)
  /-- A value of `PATH` is cut at every colon and nowhere else. -/
  cut :
    ∀ value,
      [':'].intercalate (InteractiveShell.searchDirectories (some value)) =
          value ∧
        ∀ directory ∈ InteractiveShell.searchDirectories (some value),
          ':' ∉ directory
  composed :
    ∀ name, '/' ∉ name →
      (world.withPath (some (front ++ ':' :: back))).find? name =
        ((world.withPath (some front)).find? name).or
          ((world.withPath (some back)).find? name)
  listed :
    ∀ beginning,
      (world.withPath (some (front ++ ':' :: back))).executablesFrom
          beginning =
        (world.withPath (some front)).executablesFrom beginning ++
          (world.withPath (some back)).executablesFrom beginning
  /-- Directories that are added at the end change nothing about what is found already. -/
  kept :
    ∀ name path, '/' ∉ name →
      (world.withPath (some front)).find? name = some path →
        (world.withPath (some (front ++ ':' :: back))).find? name =
          some path
  /-- What is found is in the first directory that holds it. -/
  first :
    ∀ path? name path, '/' ∉ name →
      ((world.withPath path?).find? name = some path ↔
        ∃ directory,
          (world.withPath path?).HoldsFirst directory name ∧
            path = Path.join directory name)
  /-- A name with a slash stands for itself, whatever the search path is. -/
  slash :
    ∀ path? name, '/' ∈ name →
      (world.withPath path?).find? name =
        if world.isExecutable name then some name else none
  unset :
    ∀ name, '/' ∉ name → (world.withPath none).find? name = none
  /-- The empty value is one empty directory, which adds nothing to a name. -/
  empty :
    InteractiveShell.searchDirectories (some []) = [[]] ∧
      ∀ name, '/' ∉ name →
        Path.join [] name = name ∧
          (world.withPath (some [])).find? name =
            if world.isExecutable name then some name else none

/-- Looking names up goes from left to right, and over joined values of `PATH` it composes. -/
theorem looksLeftmost (world : World) (front back : Text) :
    LooksLeftmost world front back := by
  have directories := searchDirectories_join front back
  have composed : ∀ name, '/' ∉ name →
      (world.withPath (some (front ++ ':' :: back))).find? name =
        ((world.withPath (some front)).find? name).or
          ((world.withPath (some back)).find? name) := by
    intro name flat
    simp only [find?_withPath_of_flat flat, directories, findIn_append]
  refine ⟨directories, ?_, composed, ?_, ?_, ?_, ?_, ?_, rfl, ?_⟩
  · intro value
    refine ⟨List.intercalate_splitOn ':', ?_⟩
    intro directory member
    exact Path.separator_notMem_of_mem_splitOn member
  · intro beginning
    simp only [executablesFrom, searchDirectories_withPath, directories,
      List.flatMap_append]
    rfl
  · intro name path flat found
    rw [composed name flat, found, Option.some_or]
  · intro path? name path flat
    exact find?_eq_some_iff_holdsFirst flat
  · intro path? name slash
    exact find?_of_slash slash
  · intro name flat
    exact find?_withPath_of_flat flat none
  · intro name flat
    have bare : Path.join [] name = name :=
      (Path.join_eq_self_iff flat).mpr rfl
    refine ⟨bare, ?_⟩
    rw [find?_withPath_of_flat flat]
    show [Path.join [] name].find? world.isExecutable = _
    rw [bare, List.find?_singleton]

/-- A colon at the end adds the working directory, where the name alone is found. -/
example :
    (withSearchPath.withPath (some "gone".toList)).find? "tool".toList =
        none ∧
      (withSearchPath.withPath (some "gone:".toList)).find?
          "tool".toList =
        some "tool".toList := by
  decide +kernel

end World

end InteractiveShell
