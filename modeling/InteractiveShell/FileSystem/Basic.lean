import InteractiveShell.Path
import InteractiveShell.SystemError

/-!
# File systems

A file system is an array of nodes; node zero is the root directory.  A directory knows the names
that lead to it from the root and its parent, because directories are never moved.  A removed
directory keeps its node, so that whoever works in it still can leave it, but holds nothing and
takes nothing.  A directory that may not be read gives away none of its names, but a path still
leads through it to whoever knows them.

`FileSystem.place` follows a path from a directory to an existing node, or to a vacant name in an
existing directory.  Symbolic links are followed, the last name included, up to a fixed number.
-/

namespace InteractiveShell

/-- A node is named by its position in the file system. -/
abbrev NodeId := Nat

/-- Devices that only take output. -/
inductive Device where
  /-- Takes and drops everything. -/
  | null
  /-- Never has room. -/
  | full
deriving DecidableEq

/-- A directory. -/
structure Directory where
  /-- The names that lead here from the root. -/
  location : List Text
  parent : NodeId
  entries : List (Text × NodeId)
  /-- Whether it was removed. -/
  removed : Bool
  /-- Whether the names in it may be read. -/
  readable : Bool
deriving DecidableEq

/-- What a name can lead to. -/
inductive Node where
  | file (mode : Nat) (content : Bytes)
  | directory (directory : Directory)
  | link (target : Text)
  | device (device : Device)
  /-- The program that runs command scripts. -/
  | interpreter
deriving DecidableEq

/-- A file system is its nodes. -/
structure FileSystem where
  nodes : Array Node
deriving DecidableEq

/-- The most bytes in a name. -/
def longestName : Nat :=
  255

/-- The most bytes in a path. -/
def longestPath : Nat :=
  4095

/-- The most symbolic links that are followed along one path. -/
def linkLimit : Nat :=
  40

/-- What a path is walked for. -/
inductive Purpose where
  /-- To look at what the path leads to. -/
  | looking
  /-- To open it for writing, new or not.  That rules out a slash behind the last name. -/
  | writing
deriving DecidableEq

/-- Where a path leads. -/
inductive Place where
  | existing (node : NodeId)
  /-- To a name that an existing directory does not hold. -/
  | vacant (directory : NodeId) (name : Text)
deriving DecidableEq

/-- Where a walk that follows no link comes to a stop. -/
inductive Stop where
  | arrived (place : Place)
  /-- At a symbolic link in a directory, with steps still to take behind it. -/
  | atLink (directory : NodeId) (target : Text) (rest : List Text)

namespace FileSystem

/-- The node of the root directory. -/
def root : NodeId :=
  0

def node? (files : FileSystem) (id : NodeId) : Option Node :=
  files.nodes[id]?

def directory? (files : FileSystem) (id : NodeId) : Option Directory :=
  match files.node? id with
  | some (.directory directory) => some directory
  | _ => none

/-- Puts a node in the place of an existing one. -/
def replace (files : FileSystem) (id : NodeId) (node : Node) : FileSystem :=
  ⟨files.nodes.setIfInBounds id node⟩

/-- Adds a node and an entry for it to a directory. -/
def create (files : FileSystem) (id : NodeId) (directory : Directory) (name : Text) (node : Node) :
    FileSystem :=
  let added : Directory :=
    { directory with entries := directory.entries ++ [(name, files.nodes.size)] }
  ⟨(files.nodes.push node).setIfInBounds id (.directory added)⟩

/-- Walks along steps until they are taken or a symbolic link is met. -/
def walk (files : FileSystem) (purpose : Purpose) (current : NodeId) :
    List Text → Except SystemError Stop
  | [] => .ok (.arrived (.existing current))
  | name :: rest =>
    match files.directory? current with
    | none => .error .notDirectory
    | some directory =>
      if purpose = .writing && rest = [Path.slash] then .error .isDirectory
      else if name = Path.here || name = Path.slash then files.walk purpose current rest
      else if name = Path.above then files.walk purpose directory.parent rest
      else if directory.removed then .error .noSuchEntry
      else if longestName < name.byteCount then .error .nameTooLong
      else
        match directory.entries.lookup name with
        | none =>
          if rest.isEmpty then .ok (.arrived (.vacant current name)) else .error .noSuchEntry
        | some id =>
          match files.node? id with
          | some (.link target) => .ok (.atLink current target rest)
          | _ => files.walk purpose id rest

/-- The directory from which a path is walked. -/
def origin (current : NodeId) (path : Text) : NodeId :=
  if Path.isAbsolute path then root else current

/-- Walks along steps and follows every symbolic link on the way, up to a number of them. -/
def follow (files : FileSystem) (purpose : Purpose) (links : Nat) (current : NodeId)
    (steps : List Text) : Except SystemError Place :=
  match files.walk purpose current steps with
  | .error cause => .error cause
  | .ok (.arrived place) => .ok place
  | .ok (.atLink directory target rest) =>
    match links with
    | 0 => .error .tooManyLinks
    | fewer + 1 =>
      files.follow purpose fewer (origin directory target) (Path.steps target ++ rest)

/-- Whether a text can be handed to the system as a path at all. -/
def checkPath (path : Text) : Except SystemError Unit :=
  if '\x00' ∈ path then .error .nulInPath
  else if path.isEmpty then .error .noSuchEntry
  else if longestPath < path.byteCount then .error .nameTooLong
  else .ok ()

/-- Where a path leads, seen from a directory. -/
def place (files : FileSystem) (purpose : Purpose) (current : NodeId) (path : Text) :
    Except SystemError Place :=
  match checkPath path with
  | .error cause => .error cause
  | .ok () => files.follow purpose linkLimit (origin current path) (Path.steps path)

/-- The existing node to which a path leads. -/
def resolve (files : FileSystem) (current : NodeId) (path : Text) : Except SystemError NodeId :=
  match files.place .looking current path with
  | .error cause => .error cause
  | .ok (.vacant _ _) => .error .noSuchEntry
  | .ok (.existing id) => .ok id

/-- The existing directory to which a path leads. -/
def resolveDirectory (files : FileSystem) (current : NodeId) (path : Text) :
    Except SystemError NodeId :=
  match files.resolve current path with
  | .error cause => .error cause
  | .ok id => if (files.directory? id).isSome then .ok id else .error .notDirectory

/-- Whether a path leads to a symbolic link when the last name is not followed. -/
def isLink (files : FileSystem) (current : NodeId) (path : Text) : Bool :=
  let steps := Path.steps path
  match files.follow .looking linkLimit (origin current path) steps.dropLast, steps.getLast? with
  | .ok (.existing id), some name =>
    match ((files.directory? id).bind fun directory => directory.entries.lookup name).bind
        files.node? with
    | some (.link _) => true
    | _ => false
  | _, _ => false

/-- The names in a directory that may be read. -/
def list (files : FileSystem) (current : NodeId) (path : Text) : Except SystemError (List Text) :=
  match files.resolve current path with
  | .error cause => .error cause
  | .ok id =>
    match files.directory? id with
    | none => .error .notDirectory
    | some directory =>
      if directory.readable then .ok (directory.entries.map Prod.fst) else .error .permissionDenied

/-- Whether a node can be executed: a program, or a regular file with an execute bit. -/
def canExecute : Node → Bool
  | .file mode _ => mode &&& 0o111 ≠ 0
  | .interpreter => true
  | _ => false

/-- Whether a path leads to something that can be executed. -/
def isExecutable (files : FileSystem) (current : NodeId) (path : Text) : Bool :=
  match files.resolve current path with
  | .error _ => false
  | .ok id => (files.node? id).any canExecute

/-- The absolute path of a directory that was not removed. -/
def pathOf? (files : FileSystem) (id : NodeId) : Option Text :=
  match files.directory? id with
  | some directory => if directory.removed then none else some (Path.ofNames directory.location)
  | none => none

end FileSystem

end InteractiveShell
