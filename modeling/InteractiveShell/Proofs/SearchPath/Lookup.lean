import InteractiveShell.Proofs.Path.Part
import InteractiveShell.SearchPath

/-!
# Looking a name up

What is found under a name can be executed, and it is the name itself or the name joined to one of
the directories on the search path.  Something is found under a name without slash whenever one of
these directories holds an executable of that name.
-/

namespace InteractiveShell

namespace World

variable {world : World} {name path : Text}

theorem isExecutable_of_find?_eq_some
    (found : world.find? name = some path) :
    world.isExecutable path = true := by
  rw [find?] at found
  split_ifs at found with slash executable
  · cases found
    exact executable
  · exact List.find?_some found

theorem eq_or_exists_join_of_find?_eq_some
    (found : world.find? name = some path) :
    path = name ∨
      ∃ directory ∈ world.searchDirectories,
        path = Path.join directory name := by
  rw [find?] at found
  split_ifs at found with slash executable
  · cases found
    exact .inl rfl
  · rcases List.mem_map.mp (List.mem_of_find?_eq_some found) with
      ⟨directory, member, joined⟩
    exact .inr ⟨directory, member, joined.symm⟩

/-- A path without slash is found only under itself. -/
theorem eq_of_find?_eq_some
    (found : world.find? name = some path) (flat : '/' ∉ path) :
    path = name := by
  rcases eq_or_exists_join_of_find?_eq_some found with
    same | ⟨directory, _, rfl⟩
  · exact same
  · rcases Path.join_eq_or_slash_mem directory name with same | slash
    · exact same
    · exact absurd slash flat

theorem exists_find?_eq_some
    {directory : Text} (flat : '/' ∉ name)
    (member : directory ∈ world.searchDirectories)
    (executable : world.isExecutable (Path.join directory name) = true) :
    ∃ path, world.find? name = some path := by
  rw [← Option.isSome_iff_exists, find?, if_neg flat, findIn,
    List.find?_isSome]
  exact ⟨_, List.mem_map_of_mem member, executable⟩

/-- A world in which every name is looked up as in another one. -/
def SameLookup (world later : World) : Prop :=
  later.files = world.files ∧ later.directory = world.directory ∧
    later.environment.path = world.environment.path

theorem SameLookup.isExecutable_eq
    {later : World} (same : world.SameLookup later) (path : Text) :
    later.isExecutable path = world.isExecutable path := by
  rw [isExecutable, isExecutable, same.1, same.2.1]

theorem SameLookup.find?_eq
    {later : World} (same : world.SameLookup later) (name : Text) :
    later.find? name = world.find? name := by
  have probes : later.isExecutable = world.isExecutable :=
    funext same.isExecutable_eq
  simp only [find?, findIn, searchDirectories, probes, same.2.2]

end World

end InteractiveShell
