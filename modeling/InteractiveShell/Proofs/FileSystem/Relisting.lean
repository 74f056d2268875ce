import InteractiveShell.Proofs.FileSystem.Naming
import Mathlib.Data.List.Perm.Basic

/-!
# Directories in another order

A directory does not say in which order it lists its entries.  As long as each name leads to the
same node, two file systems that differ only in that order are the same to whoever follows a path:
every walk stops at the same place, and a listing has the same names.  Where no directory holds a
name twice, every order of the entries will do.
-/

namespace InteractiveShell

/-- A node beside the same node with its entries in another order, if it is a directory.  Each name
still leads to the same node. -/
inductive Node.Relists : Node → Node → Prop where
  | same (node : Node) : Relists node node
  | directory (held : Directory) {entries : List (Text × NodeId)}
      (reordered : held.entries.Perm entries)
      (leads : ∀ name, entries.lookup name = held.entries.lookup name) :
      Relists (.directory held) (.directory { held with entries := entries })

namespace Node.Relists

variable {node other : Node}

theorem symm (relists : node.Relists other) : other.Relists node := by
  cases relists with
  | same => exact .same node
  | directory held reordered leads =>
      exact
        .directory { held with entries := _ } reordered.symm
          fun name => (leads name).symm

/-- Nodes in whose place another order of entries makes no difference to their execution. -/
theorem canExecute_eq (relists : node.Relists other) :
    FileSystem.canExecute other = FileSystem.canExecute node := by
  cases relists <;> rfl

end Node.Relists

/-- Where no name comes twice, the order of entries does not matter to a lookup. -/
theorem lookup_eq_of_perm
    {entries others : List (Text × NodeId)}
    (reordered : entries.Perm others)
    (distinct : (entries.map Prod.fst).Nodup) (name : Text) :
    others.lookup name = entries.lookup name := by
  induction reordered with
  | nil => rfl
  | cons entry _ ih =>
      rcases entry with ⟨held, id⟩
      rw [List.map_cons, List.nodup_cons] at distinct
      rw [List.lookup_cons, List.lookup_cons, ih distinct.2]
  | swap first second rest =>
      rcases first with ⟨held, id⟩
      rcases second with ⟨other, otherId⟩
      rw [List.map_cons, List.map_cons, List.nodup_cons, List.mem_cons,
        not_or] at distinct
      have apart : other ≠ held := distinct.1.1
      simp only [List.lookup_cons]
      by_cases named : name = other
      · subst named
        rw [beq_eq_false_iff_ne.mpr apart]
      · rw [beq_eq_false_iff_ne.mpr named]
  | trans front _ ihFront ihBack =>
      rw [ihBack ((front.map Prod.fst).nodup_iff.mp distinct),
        ihFront distinct]

/-- In a directory that holds no name twice, each name leads to the same node in every order. -/
theorem Node.Relists.of_perm
    {held : Directory} (distinct : (Node.directory held).Distinct)
    {entries : List (Text × NodeId)} (reordered : held.entries.Perm entries) :
    (Node.directory held).Relists
      (.directory { held with entries := entries }) :=
  .directory held reordered (lookup_eq_of_perm reordered distinct)

namespace FileSystem

variable {files other : FileSystem}

/-- A file system beside the same one with the entries of directories in another order. -/
def Relists (files other : FileSystem) : Prop :=
  ∀ id, Option.Rel Node.Relists (files.node? id) (other.node? id)

namespace Relists

theorem node?_cases (relists : files.Relists other) (id : NodeId) :
    (files.node? id = none ∧ other.node? id = none) ∨
      ∃ node reordered,
        files.node? id = some node ∧ other.node? id = some reordered ∧
          node.Relists reordered := by
  have related := relists id
  generalize files.node? id = found at related ⊢
  generalize other.node? id = otherFound at related ⊢
  cases related with
  | none => exact .inl ⟨rfl, rfl⟩
  | some related => exact .inr ⟨_, _, rfl, rfl, related⟩

theorem symm (relists : files.Relists other) : other.Relists files := by
  intro id
  rcases relists.node?_cases id with
    ⟨lost, otherLost⟩ | ⟨node, reordered, found, otherFound, related⟩
  · rw [lost, otherLost]
    exact .none
  · rw [found, otherFound]
    exact .some related.symm

theorem directory?_cases
    (relists : files.Relists other) (id : NodeId) :
    (files.directory? id = none ∧ other.directory? id = none) ∨
      ∃ held entries,
        files.directory? id = some held ∧
          other.directory? id = some { held with entries := entries } ∧
            held.entries.Perm entries ∧
              ∀ name, entries.lookup name = held.entries.lookup name := by
  rw [directory?, directory?]
  rcases relists.node?_cases id with
    ⟨lost, otherLost⟩ | ⟨node, reordered, found, otherFound, related⟩
  · rw [lost, otherLost]
    exact .inl ⟨rfl, rfl⟩
  · rw [found, otherFound]
    cases related with
    | directory held perm leads =>
        exact .inr ⟨held, _, rfl, rfl, perm, leads⟩
    | same =>
        cases node with
        | directory held =>
            exact .inr ⟨held, _, rfl, rfl, .refl _, fun _ => rfl⟩
        | file | link | device | interpreter => exact .inl ⟨rfl, rfl⟩

theorem walk_eq
    (relists : files.Relists other) (purpose : Purpose)
    (current : NodeId) (steps : List Text) :
    other.walk purpose current steps = files.walk purpose current steps := by
  induction steps generalizing current with
  | nil => rfl
  | cons name rest ih =>
      rw [walk, walk]
      rcases relists.directory?_cases current with
        ⟨lost, otherLost⟩ | ⟨held, entries, found, otherFound, _, leads⟩
      · rw [lost, otherLost]
      · simp only [found, otherFound, leads, ih]
        cases held.entries.lookup name with
        | none => rfl
        | some id =>
            rcases relists.node?_cases id with
              ⟨lost, otherLost⟩ | ⟨node, reordered, there, otherThere, related⟩
            · simp only [lost, otherLost]
            · simp only [there, otherThere]
              cases related <;> rfl

theorem follow_eq
    (relists : files.Relists other) (purpose : Purpose) (links : Nat)
    (current : NodeId) (steps : List Text) :
    other.follow purpose links current steps =
      files.follow purpose links current steps := by
  induction links generalizing current steps with
  | zero => rw [follow, follow, relists.walk_eq]
  | succ fewer ih =>
      rw [follow, follow, relists.walk_eq]
      simp only [ih]

theorem resolve_eq
    (relists : files.Relists other) (current : NodeId) (path : Text) :
    other.resolve current path = files.resolve current path := by
  rw [resolve, resolve, place, place, relists.follow_eq]

theorem isExecutable_eq
    (relists : files.Relists other) (current : NodeId) (path : Text) :
    other.isExecutable current path = files.isExecutable current path := by
  rw [isExecutable, isExecutable, relists.resolve_eq]
  cases files.resolve current path with
  | error cause => rfl
  | ok id =>
      dsimp only
      rcases relists.node?_cases id with
        ⟨lost, otherLost⟩ | ⟨node, reordered, found, otherFound, related⟩
      · rw [lost, otherLost]
      · rw [found, otherFound]
        exact related.canExecute_eq

/-- A directory that is listed in another order has the same names. -/
theorem exists_list_perm
    (relists : files.Relists other) {current : NodeId} {path : Text}
    {names : List Text} (listed : files.list current path = .ok names) :
    ∃ others, other.list current path = .ok others ∧ names.Perm others := by
  rcases list_eq_ok_iff.mp listed with
    ⟨id, directory, resolved, there, readable, rfl⟩
  rcases relists.directory?_cases id with
    ⟨lost, _⟩ | ⟨held, entries, found, otherFound, perm, _⟩
  · rw [lost] at there
    cases there
  · rw [found, Option.some_inj] at there
    subst there
    refine ⟨_, list_eq_ok_iff.mpr ?_, perm.map Prod.fst⟩
    rw [relists.resolve_eq]
    exact ⟨id, _, resolved, otherFound, readable, rfl⟩

/-- The entries of a directory may come in any order, where it holds no name twice. -/
theorem replace_of_perm
    {id : NodeId} {held : Directory}
    (found : files.directory? id = some held)
    (distinct : (Node.directory held).Distinct)
    {entries : List (Text × NodeId)} (reordered : held.entries.Perm entries) :
    files.Relists
      (files.replace id (.directory { held with entries := entries })) := by
  have there := node?_eq_some_of_directory?_eq_some found
  intro other
  by_cases same : other = id
  · subst same
    rw [node?_replace_self there, there]
    exact .some (.of_perm distinct reordered)
  · rw [node?_replace_of_ne same]
    cases files.node? other with
    | none => exact .none
    | some node => exact .some (.same node)

end Relists

end FileSystem

end InteractiveShell
