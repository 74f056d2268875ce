import InteractiveShell.Completion
import InteractiveShell.Proofs.Dispatch.Meaning
import InteractiveShell.Proofs.FileSystem.Naming
import InteractiveShell.Proofs.SearchPath.Lookup

/-!
# What the candidates for completion stand for

A candidate is a given name or the name of an executable in a directory on the search path, and it
begins with the text that is completed.  Completion lists directories, while running a name probes
paths.  In a well named file system the two agree on what is there: a candidate among the builtin
commands and the executables never stands for nothing.
-/

namespace InteractiveShell

section Repetitions

variable {α : Type} [BEq α] [LawfulBEq α]

theorem mem_eraseRepsBy_loop
    {element first : α} {rest collected : List α} :
    element ∈ List.eraseRepsBy.loop (· == ·) first rest collected ↔
      element ∈ collected ∨ element = first ∨ element ∈ rest := by
  induction rest generalizing first collected with
  | nil => simp [List.eraseRepsBy.loop, or_comm]
  | cons second rest ih =>
      rw [List.eraseRepsBy.loop]
      split
      · rename_i same
        rw [ih, eq_of_beq same, List.mem_cons]
        tauto
      · rw [ih, List.mem_cons, List.mem_cons]
        tauto

theorem mem_eraseReps {element : α} {list : List α} :
    element ∈ list.eraseReps ↔ element ∈ list := by
  cases list with
  | nil => exact Iff.rfl
  | cons first rest =>
      show element ∈ List.eraseRepsBy.loop (· == ·) first rest [] ↔ _
      rw [mem_eraseRepsBy_loop, List.mem_cons]
      simp

end Repetitions

@[simp]
theorem mem_sortedNames {name : Text} {names : List Text} :
    name ∈ sortedNames names ↔ name ∈ names := by
  rw [sortedNames, mem_eraseReps, List.mem_mergeSort]

namespace World

variable {world : World} {name beginning : Text}

theorem mem_executablesIn_iff {directory : Text} :
    name ∈ world.executablesIn directory ↔
      ∃ listed, world.files.list world.directory directory = .ok listed ∧
        name ∈ listed ∧
        world.isExecutable (Path.join directory name) = true := by
  unfold executablesIn
  cases world.files.list world.directory directory with
  | error cause => simp
  | ok listed => simp

theorem mem_candidates_iff {names : List Text} :
    name ∈ world.candidates names beginning ↔
      beginning <+: name ∧
        (name ∈ names ∨
          ∃ directory ∈ world.searchDirectories,
            name ∈ world.executablesIn directory) := by
  simp only [candidates, executablesFrom, mem_sortedNames, List.mem_append,
    List.mem_flatMap, List.mem_filter, List.isPrefixOf_iff_prefix]
  constructor
  · rintro (⟨given, begins⟩ | ⟨directory, listed, held, begins⟩)
    · exact ⟨begins, .inl given⟩
    · exact ⟨begins, .inr ⟨directory, listed, held⟩⟩
  · rintro ⟨begins, given | ⟨directory, listed, held⟩⟩
    · exact .inl ⟨given, begins⟩
    · exact .inr ⟨directory, listed, held, begins⟩

theorem isName_of_mem_executablesIn
    {directory : Text} (named : world.files.WellNamed)
    (member : name ∈ world.executablesIn directory) :
    IsName name := by
  rcases mem_executablesIn_iff.mp member with ⟨listed, found, held, _⟩
  exact named.isName_of_list found name held

/-- What is listed in a directory on the search path is also found by probing. -/
theorem exists_find?_of_mem_executablesIn
    {directory : Text} (named : world.files.WellNamed)
    (searched : directory ∈ world.searchDirectories)
    (member : name ∈ world.executablesIn directory) :
    ∃ path, world.find? name = some path := by
  have flat := (isName_of_mem_executablesIn named member).2
  rcases mem_executablesIn_iff.mp member with ⟨_, _, _, executable⟩
  exact exists_find?_eq_some flat searched executable

theorem ne_nil_of_mem_candidates
    (named : world.files.WellNamed)
    (member : name ∈ world.candidates Builtin.names beginning) :
    name ≠ [] := by
  rcases (mem_candidates_iff.mp member).2 with
    given | ⟨directory, _, held⟩
  · rcases List.mem_map.mp given with ⟨command, _, rfl⟩
    cases command <;> decide
  · exact (isName_of_mem_executablesIn named held).1

theorem meaning_ne_nothing_of_mem_candidates
    (named : world.files.WellNamed)
    (member : name ∈ world.candidates Builtin.names beginning) :
    world.meaning name ≠ .nothing := by
  rw [Ne, meaning_eq_nothing_iff]
  rintro ⟨ordinary, unfound⟩
  rcases (mem_candidates_iff.mp member).2 with
    given | ⟨directory, searched, held⟩
  · rcases List.mem_map.mp given with ⟨command, _, rfl⟩
    rw [Builtin.named?_name] at ordinary
    cases ordinary
  · rcases exists_find?_of_mem_executablesIn named searched held with
      ⟨path, found⟩
    rw [found] at unfound
    cases unfound

end World

end InteractiveShell
