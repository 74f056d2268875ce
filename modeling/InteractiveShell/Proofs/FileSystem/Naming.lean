import InteractiveShell.FileSystem.Tree
import InteractiveShell.Proofs.FileSystem.Content
import InteractiveShell.Proofs.Path.Part

/-!
# The names in directories

A path cannot lead to an empty name or to a name with a slash, so no system lets a directory hold
one.  The tree from which a machine starts is well named in this sense, and it stays so under every
operation on files: a name that is added to a directory was a step along a path.

Nor does a directory hold a name twice.  Opening a path adds a name only where a walk found it
vacant, so opening and writing keep the names in every directory distinct.
-/

namespace InteractiveShell

/-- A text that a directory can hold as a name. -/
def IsName (name : Text) : Prop :=
  name ≠ [] ∧ '/' ∉ name

instance (name : Text) : Decidable (IsName name) :=
  inferInstanceAs (Decidable (_ ∧ _))

/-- A directory of names, or no directory. -/
def Node.WellNamed : Node → Prop
  | .directory held => ∀ entry ∈ held.entries, IsName entry.1
  | .file _ _ | .link _ | .device _ | .interpreter => True

instance : DecidablePred Node.WellNamed
  | .directory held =>
      inferInstanceAs
        (Decidable (∀ entry ∈ held.entries, IsName entry.1))
  | .file _ _ | .link _ | .device _ | .interpreter =>
      inferInstanceAs (Decidable True)

/-- A directory that holds no name twice, or no directory. -/
def Node.Distinct : Node → Prop
  | .directory held => (held.entries.map Prod.fst).Nodup
  | .file _ _ | .link _ | .device _ | .interpreter => True

instance : DecidablePred Node.Distinct
  | .directory held =>
      inferInstanceAs (Decidable (held.entries.map Prod.fst).Nodup)
  | .file _ _ | .link _ | .device _ | .interpreter =>
      inferInstanceAs (Decidable True)

/-- Where a walk along steps can stop: a vacant name is one of them, and those behind a symbolic
link are the last of them. -/
def Stop.Within (steps : List Text) : Stop → Prop
  | .arrived (.existing _) => True
  | .arrived (.vacant _ name) => name ∈ steps ∧ name ≠ Path.slash
  | .atLink _ _ rest => rest <:+ steps

theorem Stop.Within.cons
    {steps : List Text} {stop : Stop} (within : stop.Within steps)
    (step : Text) :
    stop.Within (step :: steps) := by
  cases stop with
  | arrived place =>
      cases place with
      | existing id => trivial
      | vacant parent name =>
          exact ⟨List.mem_cons_of_mem step within.1, within.2⟩
  | atLink parent target rest =>
      have suffix : rest <:+ steps := within
      exact suffix.trans (List.suffix_cons step steps)

theorem exists_of_bind_eq_ok
    {ε α β : Type} {first : Except ε α} {next : α → Except ε β} {result : β}
    (done : (first >>= next) = .ok result) :
    ∃ value, first = .ok value ∧ next value = .ok result := by
  cases first with
  | error cause => cases done
  | ok value => exact ⟨value, rfl, done⟩

namespace FileSystem

variable {files after : FileSystem}

/-! ### What holds of every node -/

section Each

variable {suitable : Node → Prop}

/-- Something holds of every node. -/
def Each (files : FileSystem) (suitable : Node → Prop) : Prop :=
  ∀ node ∈ files.nodes.toList, suitable node

theorem Each.of_node?
    (each : files.Each suitable) {id : NodeId} {node : Node}
    (found : files.node? id = some node) :
    suitable node := by
  apply each
  rw [Array.mem_toList_iff]
  exact Array.mem_of_getElem? found

theorem Each.replace
    (each : files.Each suitable) (id : NodeId) {node : Node}
    (suits : suitable node) :
    (files.replace id node).Each suitable := by
  intro other member
  rw [FileSystem.replace, Array.mem_toList_iff] at member
  rcases Array.mem_or_eq_of_mem_setIfInBounds member with old | rfl
  · exact each other (Array.mem_toList_iff.mpr old)
  · exact suits

theorem Each.create
    (each : files.Each suitable) {id : NodeId} {directory : Directory}
    {name : Text} {node : Node} (suits : suitable node)
    (grown :
      suitable (.directory
        { directory with
          entries := directory.entries ++ [(name, files.nodes.size)] })) :
    (files.create id directory name node).Each suitable := by
  have pushed : Each ⟨files.nodes.push node⟩ suitable := by
    intro other member
    rw [Array.toList_push, List.mem_append, List.mem_singleton] at member
    rcases member with old | rfl
    · exact each other old
    · exact suits
  exact pushed.replace id grown

theorem Each.openNode
    (each : files.Each suitable)
    (everyFile : ∀ mode content, suitable (.file mode content))
    {id : NodeId} {mode : WriteMode} {handle : Handle}
    (opened : files.openNode id mode = .ok (handle, after)) :
    after.Each suitable := by
  unfold FileSystem.openNode at opened
  split at opened
  · cases opened
    exact each.replace id (everyFile _ _)
  · cases opened
    exact each
  · cases opened
    exact each
  all_goals cases opened

theorem Each.write
    (each : files.Each suitable)
    (everyFile : ∀ mode content, suitable (.file mode content))
    {handle moved : Handle} {bytes : Bytes} {taken : Nat}
    (written : files.write handle bytes = .ok (taken, moved, after)) :
    after.Each suitable := by
  unfold FileSystem.write at written
  split at written
  · rename_i device found
    cases device with
    | null =>
        cases written
        exact each
    | full => cases written
  · split at written
    · cases written
      exact each.replace handle.node (everyFile _ _)
    · cases written
      exact each.replace handle.node (everyFile _ _)
  · cases written

end Each

/-! ### Listings -/

theorem list_eq_ok_iff
    {current : NodeId} {path : Text} {names : List Text} :
    files.list current path = .ok names ↔
      ∃ id held,
        files.resolve current path = .ok id ∧
          files.directory? id = some held ∧
            held.readable = true ∧ held.entries.map Prod.fst = names := by
  rw [list]
  cases files.resolve current path with
  | error cause => simp
  | ok id =>
      cases found : files.directory? id with
      | none => simp [found]
      | some held => cases may : held.readable <;> simp [found, may]

/-! ### Well named directories -/

/-- All directories hold names only. -/
def WellNamed (files : FileSystem) : Prop :=
  ∀ node ∈ files.nodes.toList, node.WellNamed

instance (files : FileSystem) : Decidable files.WellNamed :=
  inferInstanceAs (Decidable (∀ node ∈ files.nodes.toList, node.WellNamed))

theorem minimal_wellNamed : minimal.WellNamed := by
  decide +kernel

theorem WellNamed.of_node?
    (named : files.WellNamed) {id : NodeId} {node : Node}
    (found : files.node? id = some node) :
    node.WellNamed :=
  Each.of_node? named found

theorem WellNamed.of_directory?
    (named : files.WellNamed) {id : NodeId} {directory : Directory}
    (found : files.directory? id = some directory) :
    ∀ entry ∈ directory.entries, IsName entry.1 :=
  named.of_node? (node?_eq_some_of_directory?_eq_some found)

theorem WellNamed.isName_of_list
    (named : files.WellNamed) {current : NodeId} {path : Text}
    {names : List Text} (listed : files.list current path = .ok names) :
    ∀ name ∈ names, IsName name := by
  rcases list_eq_ok_iff.mp listed with ⟨id, directory, _, found, _, rfl⟩
  intro name member
  rcases List.mem_map.mp member with ⟨entry, held, rfl⟩
  exact named.of_directory? found entry held

/-! ### Changes -/

theorem WellNamed.replace
    (named : files.WellNamed) (id : NodeId) {node : Node}
    (suitable : node.WellNamed) :
    (files.replace id node).WellNamed :=
  Each.replace named id suitable

theorem WellNamed.create
    (named : files.WellNamed) {id : NodeId} {directory : Directory}
    (found : files.directory? id = some directory)
    {name : Text} (fits : IsName name)
    {node : Node} (suitable : node.WellNamed) :
    (files.create id directory name node).WellNamed := by
  apply Each.create named suitable
  intro entry member
  rcases List.mem_append.mp member with old | new
  · exact named.of_directory? found entry old
  · rw [List.mem_singleton.mp new]
    exact fits

/-! ### Walks -/

theorem within_of_walk
    {purpose : Purpose} {current : NodeId} {steps : List Text} {stop : Stop}
    (walked : files.walk purpose current steps = .ok stop) :
    stop.Within steps := by
  fun_induction FileSystem.walk files purpose current steps with
  | case1 current =>
      cases walked
      trivial
  | case2 | case3 | case6 | case7 | case9 => cases walked
  | case4 current name rest directory found early stays ih =>
      exact (ih walked).cons name
  | case5 current rest directory found early moves ih =>
      exact (ih walked).cons Path.above
  | case8 current name rest directory found early moves =>
      cases walked
      constructor
      · exact List.mem_cons_self
      · intro slash
        simp [slash] at moves
  | case10 current name rest =>
      cases walked
      exact List.suffix_cons name rest
  | case11 current name rest directory found early moves up present short id
      held other ih =>
      exact (ih walked).cons name

theorem isName_of_follow_eq_vacant
    {purpose : Purpose} {links : Nat} {current parent : NodeId}
    {steps : List Text} {name : Text}
    (flat : ∀ step ∈ steps, '/' ∉ step)
    (followed :
      files.follow purpose links current steps =
        .ok (.vacant parent name)) :
    IsName name := by
  induction links generalizing current steps with
  | zero =>
      unfold follow at followed
      split at followed
      · cases followed
      · rename_i place walked
        cases followed
        rcases within_of_walk walked with ⟨member, visible⟩
        exact ⟨visible, flat name member⟩
      · cases followed
  | succ fewer ih =>
      unfold follow at followed
      split at followed
      · cases followed
      · rename_i place walked
        cases followed
        rcases within_of_walk walked with ⟨member, visible⟩
        exact ⟨visible, flat name member⟩
      · rename_i directory target rest walked
        refine ih ?_ followed
        intro step member
        rcases List.mem_append.mp member with within | behind
        · exact Path.slash_notMem_of_mem_steps within
        · have suffix : rest <:+ steps := within_of_walk walked
          exact flat step (suffix.subset behind)

theorem isName_of_place_eq_vacant
    {purpose : Purpose} {current parent : NodeId} {path name : Text}
    (placed :
      files.place purpose current path = .ok (.vacant parent name)) :
    IsName name := by
  unfold place at placed
  split at placed
  · cases placed
  · apply isName_of_follow_eq_vacant _ placed
    intro step
    exact Path.slash_notMem_of_mem_steps

/-! ### Opening and writing -/

theorem WellNamed.openNode
    (named : files.WellNamed) {id : NodeId} {mode : WriteMode}
    {handle : Handle}
    (opened : files.openNode id mode = .ok (handle, after)) :
    after.WellNamed :=
  Each.openNode named (fun _ _ => trivial) opened

theorem WellNamed.openNew
    (named : files.WellNamed) {id : NodeId} {name : Text}
    (fits : IsName name) {mode : WriteMode} {handle : Handle}
    (opened : files.openNew id name mode = .ok (handle, after)) :
    after.WellNamed := by
  unfold FileSystem.openNew at opened
  split at opened
  · cases opened
  · rename_i directory found
    cases opened
    exact named.create found fits trivial

theorem WellNamed.openForWriting
    (named : files.WellNamed) {current : NodeId} {path : Text}
    {mode : WriteMode} {handle : Handle}
    (opened :
      files.openForWriting current path mode = .ok (handle, after)) :
    after.WellNamed := by
  unfold FileSystem.openForWriting at opened
  split at opened
  · cases opened
  · exact named.openNode opened
  · rename_i directory name placed
    exact named.openNew (isName_of_place_eq_vacant placed) opened

theorem WellNamed.write
    (named : files.WellNamed) {handle moved : Handle} {bytes : Bytes}
    {taken : Nat}
    (written : files.write handle bytes = .ok (taken, moved, after)) :
    after.WellNamed :=
  Each.write named (fun _ _ => trivial) written

/-! ### Growing and pruning -/

theorem WellNamed.makeDirectories
    (named : files.WellNamed) {current last : NodeId} {names : List Text}
    (flat : ∀ name ∈ names, '/' ∉ name)
    (made : files.makeDirectories current names = .ok (last, after)) :
    after.WellNamed := by
  induction names generalizing files current with
  | nil =>
      cases made
      exact named
  | cons name rest ih =>
      have flatHead : ∀ step ∈ [name], '/' ∉ step := by
        intro step member
        rw [List.mem_singleton.mp member]
        exact flat name List.mem_cons_self
      have flatRest : ∀ step ∈ rest, '/' ∉ step := by
        intro step member
        exact flat step (List.mem_cons_of_mem name member)
      rw [FileSystem.makeDirectories] at made
      split at made
      · cases made
      · split at made
        · exact ih named flatRest made
        · cases made
      · rename_i parent vacant followed
        split at made
        · cases made
        · rename_i directory found
          have fits := isName_of_follow_eq_vacant flatHead followed
          have grown : WellNamed (files.create parent directory vacant
              (emptyDirectory (directory.location ++ [vacant]) parent)) := by
            apply named.create found fits
            intro entry member
            cases member
          exact ih grown flatRest made

theorem WellNamed.install
    (named : files.WellNamed) {current : NodeId} {path : Text}
    {fixture : Fixture}
    (installed : files.install current path fixture = .ok after) :
    after.WellNamed := by
  have flat : ∀ name ∈ Path.names path, '/' ∉ name := fun _ member =>
    (Path.mem_names member).2
  have flatParents : ∀ name ∈ (Path.names path).dropLast, '/' ∉ name :=
    fun name member => flat name (List.dropLast_subset _ member)
  cases fixture with
  | directory =>
      rcases exists_of_bind_eq_ok installed with ⟨⟨last, grown⟩, made, rest⟩
      cases rest
      exact named.makeDirectories flat made
  | link target =>
      rcases exists_of_bind_eq_ok installed with
        ⟨⟨parent, grown⟩, made, rest⟩
      have widened := named.makeDirectories flatParents made
      dsimp only at rest
      split at rest
      · rename_i directory name found last
        cases rest
        have member := List.mem_of_getLast? last
        exact widened.create found (Path.mem_names member) trivial
      · cases rest
  | file mode content =>
      rcases exists_of_bind_eq_ok installed with
        ⟨⟨parent, grown⟩, made, rest⟩
      have widened := named.makeDirectories flatParents made
      rcases exists_of_bind_eq_ok rest with ⟨⟨handle, opened⟩, found, last⟩
      cases last
      exact (widened.openForWriting found).replace handle.node trivial

theorem wellNamed_prune
    {node : Node} (named : node.WellNamed) (location : List Text) :
    (prune location node).WellNamed := by
  cases node with
  | directory held =>
      rw [prune]
      split_ifs
      · intro entry member
        cases member
      · exact named
  | file | link | device | interpreter => trivial

theorem WellNamed.remove
    (named : files.WellNamed) {current : NodeId} {path : Text}
    (removed : files.remove current path = .ok after) :
    after.WellNamed := by
  rcases exists_of_bind_eq_ok removed with ⟨place, found, rest⟩
  split at rest
  · rename_i parent name last
    split at rest
    · cases rest
    · rename_i directory held
      split at rest
      · cases rest
      · rename_i id looked
        have cut : WellNamed (files.replace parent (.directory
            { directory with
              entries :=
                directory.entries.filter fun entry => entry.1 ≠ name })) := by
          apply named.replace
          intro entry member
          exact named.of_directory? held entry (List.mem_of_mem_filter member)
        split at rest
        · cases rest
          exact cut
        · rename_i pruned below
          cases rest
          intro node member
          rw [Array.toList_map, List.mem_map] at member
          rcases member with ⟨kept, old, rfl⟩
          exact wellNamed_prune (cut kept old) pruned.location
  · cases rest

/-! ### Distinct names -/

/-- No directory holds a name twice. -/
def Distinct (files : FileSystem) : Prop :=
  files.Each Node.Distinct

instance (files : FileSystem) : Decidable files.Distinct :=
  inferInstanceAs (Decidable (∀ node ∈ files.nodes.toList, node.Distinct))

theorem minimal_distinct : minimal.Distinct := by
  decide +kernel

theorem Distinct.of_directory?
    (distinct : files.Distinct) {id : NodeId} {directory : Directory}
    (found : files.directory? id = some directory) :
    (directory.entries.map Prod.fst).Nodup :=
  Each.of_node? distinct (node?_eq_some_of_directory?_eq_some found)

theorem Distinct.nodup_of_list
    (distinct : files.Distinct) {current : NodeId} {path : Text}
    {names : List Text} (listed : files.list current path = .ok names) :
    names.Nodup := by
  rcases list_eq_ok_iff.mp listed with ⟨id, directory, _, found, _, rfl⟩
  exact distinct.of_directory? found

/-- A name is added only where a directory does not hold it. -/
theorem lookup_of_walk_eq_vacant
    {purpose : Purpose} {current parent : NodeId} {steps : List Text}
    {name : Text}
    (walked :
      files.walk purpose current steps =
        .ok (.arrived (.vacant parent name))) :
    ∃ directory,
      files.directory? parent = some directory ∧
        directory.entries.lookup name = none := by
  fun_induction FileSystem.walk files purpose current steps with
  | case1 | case2 | case3 | case6 | case7 | case9 | case10 => cases walked
  | case4 current name rest directory found early stays ih => exact ih walked
  | case5 current rest directory found early moves ih => exact ih walked
  | case8 current name rest directory found early moves up present short
      missing =>
      cases walked
      exact ⟨directory, found, missing⟩
  | case11 current name rest directory found early moves up present short id
      held other ih =>
      exact ih walked

theorem lookup_of_follow_eq_vacant
    {purpose : Purpose} {links : Nat} {current parent : NodeId}
    {steps : List Text} {name : Text}
    (followed :
      files.follow purpose links current steps =
        .ok (.vacant parent name)) :
    ∃ directory,
      files.directory? parent = some directory ∧
        directory.entries.lookup name = none := by
  fun_induction FileSystem.follow files purpose links current steps with
  | case1 | case3 => cases followed
  | case2 links current steps place walked =>
      cases followed
      exact lookup_of_walk_eq_vacant walked
  | case4 current steps directory target rest walked fewer ih =>
      exact ih followed

theorem Distinct.create
    (distinct : files.Distinct) {id : NodeId} {directory : Directory}
    (found : files.directory? id = some directory)
    {name : Text} (missing : directory.entries.lookup name = none)
    {node : Node} (suitable : node.Distinct) :
    (files.create id directory name node).Distinct := by
  apply Each.create distinct suitable
  have old := distinct.of_directory? found
  have new : name ∉ directory.entries.map Prod.fst := by
    intro member
    rcases List.mem_map.mp member with ⟨entry, held, rfl⟩
    have differs := List.lookup_eq_none_iff.mp missing entry held
    simp at differs
  rw [Node.Distinct, List.map_append]
  refine List.nodup_append.mpr ⟨old, by simp, ?_⟩
  intro other held added member same
  rw [List.map_singleton, List.mem_singleton] at member
  rw [same, member] at held
  exact new held

theorem Distinct.openForWriting
    (distinct : files.Distinct) {current : NodeId} {path : Text}
    {mode : WriteMode} {handle : Handle}
    (opened :
      files.openForWriting current path mode = .ok (handle, after)) :
    after.Distinct := by
  unfold FileSystem.openForWriting at opened
  split at opened
  · cases opened
  · exact Each.openNode distinct (fun _ _ => trivial) opened
  · rename_i parent name placed
    unfold place at placed
    split at placed
    · cases placed
    · rcases lookup_of_follow_eq_vacant placed with
        ⟨directory, found, missing⟩
      rw [openNew, found] at opened
      cases opened
      exact distinct.create found missing trivial

theorem Distinct.write
    (distinct : files.Distinct) {handle moved : Handle} {bytes : Bytes}
    {taken : Nat}
    (written : files.write handle bytes = .ok (taken, moved, after)) :
    after.Distinct :=
  Each.write distinct (fun _ _ => trivial) written

end FileSystem

end InteractiveShell
