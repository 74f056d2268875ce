import InteractiveShell.Proofs.Completion.Sorting
import InteractiveShell.Proofs.FileSystem.Relisting

/-!
# What decides the candidates

The candidates are strictly increasing, so they are decided by which names are among them.  A name
is, if it begins with the text and is a given name or leads to an executable in a directory on the
search path.  None of this depends on an order or on a number of occurrences, and a longer text
narrows the candidates down.
-/

namespace InteractiveShell

namespace Text

/-- A text comes before another one where they first differ, or the other one continues it.
Characters are compared by their code points. -/
def Precedes (left right : Text) : Prop :=
  List.Lex (· < ·) (left.map Char.toNat) (right.map Char.toNat)

theorem Before.precedes {left right : Text} (before : Before left right) :
    Precedes left right := by
  induction left generalizing right with
  | nil =>
      cases right with
      | nil => exact absurd before (not_before_self [])
      | cons second right => exact .nil
  | cons first left ih =>
      cases right with
      | nil => simp [Before] at before
      | cons second right =>
          rw [Before, atMost_cons_cons] at before
          by_cases same : second = first
          · subst same
            rw [if_pos rfl] at before
            exact .cons (ih before)
          · rw [if_neg same] at before
            have apart := toNat_ne_of_ne same
            have above : ¬ second.toNat < first.toNat := by
              simpa using before
            exact .rel (by omega)

end Text

/-- A node that can be run: a regular file with an execute bit, or the program that runs command
scripts. -/
inductive Node.IsProgram : Node → Prop where
  | file {mode : Nat} {content : Bytes} (bit : mode &&& 0o111 ≠ 0) :
      IsProgram (.file mode content)
  | interpreter : IsProgram .interpreter

theorem Node.isProgram_iff {node : Node} :
    node.IsProgram ↔ FileSystem.canExecute node = true := by
  constructor
  · rintro (bit | _)
    · simpa [FileSystem.canExecute] using bit
    · rfl
  · intro executable
    cases node with
    | file mode content =>
        exact .file (by simpa [FileSystem.canExecute] using executable)
    | interpreter => exact .interpreter
    | directory | link | device => cases executable

namespace World

variable {world other : World} {directory name : Text}

/-- A directory can be listed, and a name in it leads to something that can be run.  Symbolic links
are followed. -/
def Lists (world : World) (directory name : Text) : Prop :=
  ∃ id held target node,
    world.files.resolve world.directory directory = .ok id ∧
      world.files.directory? id = some held ∧ held.readable = true ∧
        name ∈ held.entries.map Prod.fst ∧
          world.files.resolve world.directory (Path.join directory name) =
              .ok target ∧
            world.files.node? target = some node ∧ node.IsProgram

theorem isExecutable_eq_true_iff {path : Text} :
    world.isExecutable path = true ↔
      ∃ target node,
        world.files.resolve world.directory path = .ok target ∧
          world.files.node? target = some node ∧ node.IsProgram := by
  rw [isExecutable, FileSystem.isExecutable]
  cases world.files.resolve world.directory path with
  | error cause => simp
  | ok target => simp [Option.any_eq_true, Node.isProgram_iff]

theorem mem_executablesIn_iff_lists :
    name ∈ world.executablesIn directory ↔ world.Lists directory name := by
  rw [mem_executablesIn_iff]
  simp only [isExecutable_eq_true_iff, FileSystem.list_eq_ok_iff]
  constructor
  · rintro ⟨_, ⟨id, held, resolved, found, readable, rfl⟩, member,
      target, node, leads, there, program⟩
    exact
      ⟨id, held, target, node, resolved, found, readable, member, leads,
        there, program⟩
  · rintro
      ⟨id, held, target, node, resolved, found, readable, member, leads,
        there, program⟩
    exact
      ⟨_, ⟨id, held, resolved, found, readable, rfl⟩, member,
        target, node, leads, there, program⟩

/-- Two worlds that differ only in the order in which directories list their entries, and in the
order and the number of times in which directories are on the search path. -/
structure Alike (world other : World) : Prop where
  files : world.files.Relists other.files
  directory : other.directory = world.directory
  searched :
    ∀ path,
      path ∈ other.searchDirectories ↔ path ∈ world.searchDirectories

theorem Alike.symm (alike : world.Alike other) : other.Alike world where
  files := alike.files.symm
  directory := alike.directory.symm
  searched path := (alike.searched path).symm

theorem Alike.mem_executablesIn
    (alike : world.Alike other)
    (member : name ∈ world.executablesIn directory) :
    name ∈ other.executablesIn directory := by
  rcases mem_executablesIn_iff.mp member with
    ⟨listed, found, held, executable⟩
  rcases alike.files.exists_list_perm found with ⟨others, otherFound, perm⟩
  refine mem_executablesIn_iff.mpr ⟨others, ?_, perm.subset held, ?_⟩
  · rw [alike.directory, otherFound]
  · rw [isExecutable, alike.directory, alike.files.isExecutable_eq]
    exact executable

theorem Alike.mem_candidates
    (alike : world.Alike other) {names others : List Text}
    (given : names ⊆ others) {beginning : Text}
    (member : name ∈ world.candidates names beginning) :
    name ∈ other.candidates others beginning := by
  rcases mem_candidates_iff.mp member with
    ⟨begins, named | ⟨directory, searched, held⟩⟩
  · exact mem_candidates_iff.mpr ⟨begins, .inl (given named)⟩
  · exact
      mem_candidates_iff.mpr
        ⟨begins, .inr
          ⟨directory, (alike.searched directory).mpr searched,
            alike.mem_executablesIn held⟩⟩

/-- The candidates of a world among given names are a set in its one canonical order. -/
structure CanonicalCandidates (world : World) (names : List Text) :
    Prop where
  increasing (beginning : Text) :
    (world.candidates names beginning).Pairwise Text.Precedes
  members (beginning name : Text) :
    name ∈ world.candidates names beginning ↔
      beginning <+: name ∧
        (name ∈ names ∨
          ∃ directory ∈ world.searchDirectories,
            world.Lists directory name)
  /-- Neither an order nor a number of occurrences matters: not of the given names, not of the
  directories on the search path, not of the entries in a directory. -/
  unordered (other : World) (others : List Text) :
    world.Alike other → (∀ name, name ∈ others ↔ name ∈ names) →
      other.candidates others = world.candidates names
  narrowed (beginning more : Text) :
    world.candidates names (beginning ++ more) =
      (world.candidates names beginning).filter
        (beginning ++ more).isPrefixOf

/-- Completion offers a set of names, decided by what is there to be run. -/
theorem canonicalCandidates (world : World) (names : List Text) :
    world.CanonicalCandidates names where
  increasing beginning :=
    (pairwise_before_sortedNames _).imp Text.Before.precedes
  members beginning name := by
    simp only [mem_candidates_iff, mem_executablesIn_iff_lists]
  unordered other others alike same := by
    ext1 beginning
    refine
      (pairwise_before_sortedNames _).eq_of_mem_iff
        (pairwise_before_sortedNames _) fun name => ?_
    exact
      ⟨alike.symm.mem_candidates fun name => (same name).mp,
        alike.mem_candidates fun name => (same name).mpr⟩
  narrowed beginning more :=
    world.candidates_narrows names (List.prefix_append beginning more)

/-- A world with a search path whose root directory has given entries: to a program, to a file
without an execute bit, and to a link. -/
def withEntries (searched : Text) (entries : List (Text × NodeId)) : World :=
  { initial
      ⟨#[.directory ⟨[], 0, entries, false, true⟩, .file 0o755 [],
        .file 0o644 [], .link "run".toList]⟩ with
    environment := ⟨some searched, none⟩ }

/-- Entries, directories and given names in another order, some of them repeated. -/
theorem candidates_withEntries_reversed :
    let entries : List (Text × NodeId) :=
      [("run".toList, 1), ("read".toList, 2), ("rerun".toList, 3)]
    (withEntries "/:gone".toList entries).executablesFrom "r".toList =
        ["run".toList, "rerun".toList] ∧
      (withEntries "gone:/:gone:/".toList entries.reverse).candidates
          ["cd".toList, "rest".toList, "cd".toList] =
        (withEntries "/:gone".toList entries).candidates
          ["rest".toList, "cd".toList] := by
  intro entries
  refine ⟨by decide +kernel, ?_⟩
  apply (canonicalCandidates _ _).unordered
  · constructor
    · exact
        FileSystem.Relists.replace_of_perm
          (show (withEntries "/:gone".toList entries).files.directory? 0 =
            some ⟨[], 0, entries, false, true⟩ from rfl)
          (by decide) (List.reverse_perm entries).symm
    · rfl
    · intro path
      have first :
          (withEntries "/:gone".toList entries).searchDirectories =
            ["/".toList, "gone".toList] := by
        decide +kernel
      have second :
          (withEntries "gone:/:gone:/".toList
              entries.reverse).searchDirectories =
            ["gone".toList, "/".toList, "gone".toList, "/".toList] := by
        decide +kernel
      rw [first, second]
      grind
  · grind

end World

end InteractiveShell
