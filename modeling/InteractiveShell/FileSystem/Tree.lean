import InteractiveShell.FileSystem.Writing

/-!
# Growing and pruning a file tree

Operations that lay out a tree of files: directories with all their parents, files with a mode,
symbolic links, and the removal of a whole subtree.  `FileSystem.minimal` is the tree from which
every machine starts, and `FileSystem.filesBelow` lists the regular files of a subtree.
-/

namespace InteractiveShell

/-- A thing to lay out at a path. -/
inductive Fixture where
  | directory
  | link (target : Text)
  | file (mode : Nat) (content : Bytes)

namespace FileSystem

/-- An empty directory at a location, which may be read. -/
def emptyDirectory (location : List Text) (parent : NodeId) : Node :=
  .directory ⟨location, parent, [], false, true⟩

/-- Makes those of the named directories, each below the one before, that do not exist. -/
def makeDirectories (files : FileSystem) (current : NodeId) :
    List Text → Except SystemError (NodeId × FileSystem)
  | [] => .ok (current, files)
  | name :: rest =>
    match files.follow .looking linkLimit current [name] with
    | .error cause => .error cause
    | .ok (.existing id) =>
      if (files.directory? id).isSome then files.makeDirectories id rest else .error .notDirectory
    | .ok (.vacant id name) =>
      match files.directory? id with
      | none => .error .notDirectory
      | some directory =>
        let made := files.create id directory name
          (emptyDirectory (directory.location ++ [name]) id)
        made.makeDirectories files.nodes.size rest

/-- Lays out a thing at a path, with the directories above it. -/
def install (files : FileSystem) (current : NodeId) (path : Text) (fixture : Fixture) :
    Except SystemError FileSystem := do
  let names := Path.names path
  match fixture with
  | .directory =>
    let (_, files) ← files.makeDirectories current names
    return files
  | .link target =>
    let (parent, files) ← files.makeDirectories current names.dropLast
    match files.directory? parent, names.getLast? with
    | some directory, some name => return files.create parent directory name (.link target)
    | _, _ => throw .noSuchEntry
  | .file mode content =>
    let (_, files) ← files.makeDirectories current names.dropLast
    let (handle, files) ← files.openForWriting current path .truncate
    return files.replace handle.node (.file mode content)

/-- A directory node after the subtree at a location was removed. -/
def prune (location : List Text) : Node → Node
  | .directory directory =>
    if location.isPrefixOf directory.location then
      .directory { directory with entries := [], removed := true }
    else
      .directory directory
  | other => other

/-- Removes a file, a symbolic link or a whole directory. -/
def remove (files : FileSystem) (current : NodeId) (path : Text) :
    Except SystemError FileSystem := do
  let names := Path.names path
  let place ← files.follow .looking linkLimit current names.dropLast
  match place, names.getLast? with
  | .existing parent, some name =>
    match files.directory? parent with
    | none => throw .notDirectory
    | some directory =>
      match directory.entries.lookup name with
      | none => throw .noSuchEntry
      | some id =>
        let kept := directory.entries.filter fun entry => entry.1 ≠ name
        let cut := files.replace parent (.directory { directory with entries := kept })
        match files.directory? id with
        | none => return cut
        | some removed => return ⟨cut.nodes.map (prune removed.location)⟩
  | _, _ => throw .noSuchEntry

/-- A root directory with nothing in it. -/
def bare : FileSystem :=
  ⟨#[emptyDirectory [] root]⟩

/-- Adds a node at a path below existing or new directories. -/
def mount (files : FileSystem) (parents : List Text) (name : Text) (node : Node) : FileSystem :=
  match files.makeDirectories root parents with
  | .error _ => files
  | .ok (id, files) =>
    match files.directory? id with
    | none => files
    | some directory => files.create id directory name node

/-- The tree from which a machine starts: the script interpreter and two devices. -/
def minimal : FileSystem :=
  ((bare.mount ["bin".toList] "sh".toList .interpreter).mount
    ["dev".toList] "null".toList (.device .null)).mount
    ["dev".toList] "full".toList (.device .full)

/-- The regular files that a directory holds, with the names that lead to each from a location.  A
file that no path from the root can reach, because it would be too long, is left out. -/
def filesIn (files : FileSystem) (location : List Text) (directory : Directory) :
    List (List Text × Bytes) :=
  match location.isPrefixOf? directory.location with
  | none => []
  | some below =>
    directory.entries.filterMap fun entry =>
      let path := Path.ofNames (directory.location ++ [entry.1])
      match files.node? entry.2 with
      | some (.file _ content) =>
        if longestPath < path.byteCount then none else some (below ++ [entry.1], content)
      | _ => none

/-- The regular files below a location, with the names that lead to each from there. -/
def filesBelow (files : FileSystem) (location : List Text) : List (List Text × Bytes) :=
  files.nodes.toList.flatMap fun
    | .directory directory => files.filesIn location directory
    | _ => []

end FileSystem

end InteractiveShell
