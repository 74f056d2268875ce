import InteractiveShell.FileSystem.Writing
import Mathlib.Tactic.SplitIfs

/-!
# The content of files

`FileSystem.content?` looks at a file system as the contents of its regular files.  Opening a path
for writing leaves all contents but one as they are; the one is emptied, kept or made, as the mode
says.  A write to an open file puts the bytes behind what the file holds, as long as the handle is
at the end.
-/

namespace InteractiveShell

/-- The content to which output is added that is written in a mode to a file, new or not. -/
def WriteMode.kept (mode : WriteMode) (content? : Option Bytes) : Bytes :=
  match mode with
  | .truncate => []
  | .append => content?.getD []

namespace FileSystem

variable {files after : FileSystem}

/-- The content of a regular file. -/
def content? (files : FileSystem) (id : NodeId) : Option Bytes :=
  match files.node? id with
  | some (.file _ content) => some content
  | _ => none

/-- Whether a node is a device. -/
def isDevice (files : FileSystem) (id : NodeId) : Bool :=
  match files.node? id with
  | some (.device _) => true
  | _ => false

theorem content?_of_node?_eq_some
    {id : NodeId} {mode : Nat} {content : Bytes}
    (found : files.node? id = some (.file mode content)) :
    files.content? id = some content := by
  rw [content?, found]

theorem lt_size_of_node?_eq_some
    {id : NodeId} {node : Node} (found : files.node? id = some node) :
    id < files.nodes.size := by
  rw [node?, Array.getElem?_eq_some_iff] at found
  exact found.1

theorem node?_replace_of_ne
    {id other : NodeId} (distinct : other ≠ id) (node : Node) :
    (files.replace id node).node? other = files.node? other := by
  rw [node?, replace, Array.getElem?_setIfInBounds, if_neg distinct.symm]
  rfl

theorem node?_replace_self
    {id : NodeId} {old : Node} (found : files.node? id = some old)
    (node : Node) :
    (files.replace id node).node? id = some node := by
  have inside := lt_size_of_node?_eq_some found
  rw [node?, replace, Array.getElem?_setIfInBounds, if_pos rfl,
    if_pos inside]

/-- Two file systems that agree in a node's content, and in whether it is a device. -/
def AgreeAt (files other : FileSystem) (id : NodeId) : Prop :=
  other.content? id = files.content? id ∧
    other.isDevice id = files.isDevice id

instance (files other : FileSystem) (id : NodeId) :
    Decidable (files.AgreeAt other id) :=
  inferInstanceAs (Decidable (_ ∧ _))

theorem AgreeAt.refl (files : FileSystem) (id : NodeId) :
    files.AgreeAt files id :=
  ⟨rfl, rfl⟩

theorem AgreeAt.trans
    {first second third : FileSystem} {id : NodeId}
    (front : first.AgreeAt second id) (back : second.AgreeAt third id) :
    first.AgreeAt third id :=
  ⟨back.1.trans front.1, back.2.trans front.2⟩

theorem agreeAt_of_node?_eq
    {other : FileSystem} {id : NodeId}
    (same : other.node? id = files.node? id) :
    files.AgreeAt other id := by
  rw [AgreeAt, content?, content?, isDevice, isDevice, same]
  exact ⟨rfl, rfl⟩

/-- What opening a file system for writing does to it. -/
structure Opens (mode : WriteMode) (files : FileSystem) (handle : Handle)
    (after : FileSystem) : Prop where
  position : handle.position = startPosition mode
  others : ∀ id, id ≠ handle.node → files.AgreeAt after id
  device : after.isDevice handle.node = files.isDevice handle.node
  content :
    files.isDevice handle.node = false →
      after.content? handle.node =
        some (mode.kept (files.content? handle.node))

theorem opens_of_openNode
    {id : NodeId} {mode : WriteMode} {handle : Handle}
    (opened : files.openNode id mode = .ok (handle, after)) :
    Opens mode files handle after := by
  unfold openNode at opened
  split at opened
  · rename_i bits content found
    cases opened
    have emptied := node?_replace_self found (.file bits [])
    refine ⟨rfl, ?_, ?_, ?_⟩
    · intro other distinct
      exact agreeAt_of_node?_eq (node?_replace_of_ne distinct _)
    · simp [isDevice, emptied, found]
    · intro regular
      exact content?_of_node?_eq_some emptied
  · rename_i bits content found
    cases opened
    refine ⟨rfl, fun other _ => .refl files other, rfl, ?_⟩
    intro regular
    simp [content?, found, WriteMode.kept]
  · rename_i device mode found
    cases opened
    refine ⟨rfl, fun other _ => .refl files other, rfl, ?_⟩
    intro regular
    simp [isDevice, found] at regular
  · cases opened
  · cases opened
  · cases opened
  · cases opened

theorem node?_eq_some_of_directory?_eq_some
    {id : NodeId} {directory : Directory}
    (found : files.directory? id = some directory) :
    files.node? id = some (.directory directory) := by
  unfold directory? at found
  split at found
  · rename_i held node
    rw [node]
    simpa using found
  · cases found

section Creation

variable {id : NodeId} {directory : Directory} {name : Text} {node : Node}

theorem node?_create_size
    (name : Text) (node : Node)
    (found : files.directory? id = some directory) :
    (files.create id directory name node).node? files.nodes.size =
      some node := by
  have inside :=
    lt_size_of_node?_eq_some (node?_eq_some_of_directory?_eq_some found)
  refine (node?_replace_of_ne (Nat.ne_of_gt inside) _).trans ?_
  exact Array.getElem?_push_size

theorem node?_create_of_ne
    {other : NodeId} (elsewhere : other ≠ id)
    (older : other ≠ files.nodes.size) :
    (files.create id directory name node).node? other =
      files.node? other := by
  have pushed :
      node? ⟨files.nodes.push node⟩ other = files.node? other := by
    rw [node?, Array.getElem?_push, if_neg older]
    rfl
  exact (node?_replace_of_ne elsewhere _).trans pushed

theorem node?_create_self
    (name : Text) (node : Node)
    (found : files.directory? id = some directory) :
    (files.create id directory name node).node? id =
      some (.directory
        { directory with
          entries := directory.entries ++ [(name, files.nodes.size)] }) := by
  have before := node?_eq_some_of_directory?_eq_some found
  have inside := lt_size_of_node?_eq_some before
  have pushed :
      node? ⟨files.nodes.push node⟩ id = some (.directory directory) := by
    rw [node?, Array.getElem?_push, if_neg (Nat.ne_of_lt inside)]
    exact before
  exact node?_replace_self pushed _

/-- A new node changes no content but its own. -/
theorem agreeAt_create
    (found : files.directory? id = some directory)
    {other : NodeId} (older : other ≠ files.nodes.size) :
    files.AgreeAt (files.create id directory name node) other := by
  by_cases same : other = id
  · subst same
    have before := node?_eq_some_of_directory?_eq_some found
    have after := node?_create_self name node found
    rw [AgreeAt, content?, content?, isDevice, isDevice, before, after]
    exact ⟨rfl, rfl⟩
  · exact agreeAt_of_node?_eq (node?_create_of_ne same older)

end Creation

theorem opens_of_openNew
    {id : NodeId} {name : Text} {mode : WriteMode} {handle : Handle}
    (opened : files.openNew id name mode = .ok (handle, after)) :
    Opens mode files handle after := by
  unfold openNew at opened
  split at opened
  · cases opened
  · rename_i directory found
    cases opened
    have made := node?_create_size name (.file newFileMode []) found
    have vacant : files.node? files.nodes.size = none :=
      Array.getElem?_eq_none (Nat.le_refl _)
    refine ⟨rfl, fun other older => agreeAt_create found older, ?_, ?_⟩
    · simp [isDevice, made, vacant]
    · intro regular
      rw [content?_of_node?_eq_some made, content?, vacant]
      cases mode <;> rfl

/-- Opening a path for writing changes the content of the file that it leads to, as the mode says. -/
theorem opens_of_openForWriting
    {current : NodeId} {path : Text} {mode : WriteMode} {handle : Handle}
    (opened :
      files.openForWriting current path mode = .ok (handle, after)) :
    Opens mode files handle after := by
  unfold openForWriting at opened
  split at opened
  · cases opened
  · exact opens_of_openNode opened
  · exact opens_of_openNew opened

/-- An open file's handle is at the end of what the file holds. -/
def AtEnd (files : FileSystem) (handle : Handle) : Prop :=
  ∀ content, files.content? handle.node = some content →
    ∀ position, handle.position = some position → position = content.length

theorem Opens.atEnd
    {mode : WriteMode} {handle : Handle}
    (opened : Opens mode files handle after)
    (regular : files.isDevice handle.node = false) :
    after.AtEnd handle := by
  intro content held position starts
  have kept := opened.content regular
  have start := opened.position
  cases mode with
  | append => simp [start, startPosition] at starts
  | truncate =>
      rw [held] at kept
      rw [start] at starts
      cases kept
      cases starts
      rfl

theorem AtEnd.of_agreeAt
    {handle : Handle} (ends : files.AtEnd handle)
    (agrees : files.AgreeAt after handle.node) :
    after.AtEnd handle := by
  intro content held
  rw [agrees.1] at held
  exact ends content held

/-- What a write of bytes to an open file does to a file system and to the file's handle. -/
structure Writes (bytes : Bytes) (files : FileSystem) (handle : Handle)
    (moved : Handle) (after : FileSystem) : Prop where
  node : moved.node = handle.node
  others : ∀ id, id ≠ handle.node → files.AgreeAt after id
  device : after.isDevice handle.node = files.isDevice handle.node
  content :
    ∀ content, files.content? handle.node = some content →
      files.AtEnd handle →
      after.content? handle.node = some (content ++ bytes) ∧
        after.AtEnd moved

theorem Writes.nothing (files : FileSystem) (handle : Handle) :
    Writes [] files handle handle files := by
  refine ⟨rfl, fun id _ => .refl files id, rfl, ?_⟩
  intro content held ends
  rw [held, List.append_nil]
  exact ⟨rfl, ends⟩

theorem Writes.append
    {first second : Bytes} {between : FileSystem}
    {handle moved last : Handle}
    (front : Writes first files handle moved between)
    (back : Writes second between moved last after) :
    Writes (first ++ second) files handle last after := by
  refine ⟨back.node.trans front.node, ?_, ?_, ?_⟩
  · intro id distinct
    have elsewhere : id ≠ moved.node := by rwa [front.node]
    exact (front.others id distinct).trans (back.others id elsewhere)
  · rw [← front.device, ← front.node]
    exact back.device
  · intro content held ends
    rcases front.content content held ends with ⟨longer, still⟩
    rw [← front.node] at longer ⊢
    rw [← List.append_assoc]
    exact back.content _ longer still

theorem overwrite_length (content bytes : Bytes) :
    overwrite content content.length bytes = content ++ bytes := by
  simp [overwrite]

/-- A new content in the place of a longer part of an open file's content is a write. -/
theorem writes_of_replace
    {handle : Handle} {mode : Nat} {content written bytes : Bytes}
    {position? : Option Nat}
    (found : files.node? handle.node = some (.file mode content))
    (grown : files.AtEnd handle → written = content ++ bytes)
    (moved :
      position? = handle.position.map fun position =>
        position + bytes.length) :
    Writes bytes files handle ⟨handle.node, position?⟩
      (files.replace handle.node (.file mode written)) := by
  have replaced := node?_replace_self found (.file mode written)
  refine ⟨rfl, ?_, ?_, ?_⟩
  · intro id distinct
    exact agreeAt_of_node?_eq (node?_replace_of_ne distinct _)
  · rw [isDevice, isDevice, replaced, found]
  · intro held same ends
    rw [content?_of_node?_eq_some found] at same
    cases same
    have now := content?_of_node?_eq_some replaced
    rw [grown ends] at now ⊢
    refine ⟨now, ?_⟩
    intro later holds position starts
    rw [now] at holds
    cases holds
    rw [moved, Option.map_eq_some_iff] at starts
    rcases starts with ⟨before, placed, rfl⟩
    rw [ends content (content?_of_node?_eq_some found) before placed,
      List.length_append]

/-- A write takes all bytes and puts them behind what the file holds. -/
theorem writes_of_write
    {handle moved : Handle} {bytes : Bytes} {taken : Nat}
    (written : files.write handle bytes = .ok (taken, moved, after)) :
    taken = bytes.length ∧ Writes bytes files handle moved after := by
  unfold write at written
  split at written
  · rename_i device found
    cases device with
    | null =>
        cases written
        refine ⟨rfl, rfl, fun id _ => .refl files id, rfl, ?_⟩
        intro content held ends
        simp [content?, found] at held
    | full => cases written
  · rename_i mode content found
    rcases handle with ⟨node, position?⟩
    cases position? with
    | none =>
        cases written
        exact ⟨rfl, writes_of_replace found (fun _ => rfl) rfl⟩
    | some position =>
        cases written
        refine ⟨rfl, writes_of_replace found ?_ rfl⟩
        intro ends
        have last :=
          ends content (content?_of_node?_eq_some found) position rfl
        rw [last, overwrite_length]
  · cases written

end FileSystem

end InteractiveShell
