import InteractiveShell.FileSystem.Basic
import InteractiveShell.Redirection

/-!
# Writing to files

Opening a path for writing makes the file if the name is vacant, and otherwise keeps or drops its
content as the mode says.  A handle remembers the node and where the next bytes go; a handle for
appending always writes at the end.  A failed opening changes nothing, because it gives no file
system back.
-/

namespace InteractiveShell

/-- A file or device that is open for writing. -/
structure Handle where
  node : NodeId
  /-- Where the next bytes go; at the end if absent. -/
  position : Option Nat
deriving DecidableEq

/-- How a device answers a write. -/
def Device.accept (device : Device) (bytes : Bytes) : Except SystemError Nat :=
  match device with
  | .null => .ok bytes.length
  | .full => .error .noSpace

/-- A content after bytes were written at a position.  A gap before them is filled with zeros. -/
def overwrite (content : Bytes) (position : Nat) (bytes : Bytes) : Bytes :=
  let size := content.length
  if size ≤ position then content ++ (List.replicate (position - size) 0 ++ bytes)
  else content.take position ++ (bytes ++ content.drop (position + bytes.length))

/-- The mode of a new file. -/
def newFileMode : Nat :=
  0o644

namespace FileSystem

/-- Where a freshly opened handle writes. -/
def startPosition : WriteMode → Option Nat
  | .truncate => some 0
  | .append => none

/-- Opens an existing node for writing. -/
def openNode (files : FileSystem) (id : NodeId) (mode : WriteMode) :
    Except SystemError (Handle × FileSystem) :=
  match files.node? id, mode with
  | some (.file bits _), .truncate =>
    .ok (⟨id, startPosition mode⟩, files.replace id (.file bits []))
  | some (.file _ _), .append => .ok (⟨id, startPosition mode⟩, files)
  | some (.device _), _ => .ok (⟨id, startPosition mode⟩, files)
  | some (.directory _), _ => .error .isDirectory
  | some .interpreter, _ => .error .textBusy
  | some (.link _), _ => .error .tooManyLinks
  | none, _ => .error .noSuchEntry

/-- Makes a new file in a directory and opens it for writing. -/
def openNew (files : FileSystem) (id : NodeId) (name : Text) (mode : WriteMode) :
    Except SystemError (Handle × FileSystem) :=
  match files.directory? id with
  | none => .error .notDirectory
  | some directory =>
    .ok (⟨files.nodes.size, startPosition mode⟩,
      files.create id directory name (.file newFileMode []))

/-- Opens a path for writing. -/
def openForWriting (files : FileSystem) (current : NodeId) (path : Text) (mode : WriteMode) :
    Except SystemError (Handle × FileSystem) :=
  match files.place .writing current path with
  | .error cause => .error cause
  | .ok (.existing id) => files.openNode id mode
  | .ok (.vacant directory name) => files.openNew directory name mode

/-- Writes bytes to an open file or device; gives how many were taken. -/
def write (files : FileSystem) (handle : Handle) (bytes : Bytes) :
    Except SystemError (Nat × Handle × FileSystem) :=
  match files.node? handle.node with
  | some (.device device) => (device.accept bytes).map fun taken => (taken, handle, files)
  | some (.file mode content) =>
    match handle.position with
    | none =>
      .ok (bytes.length, handle, files.replace handle.node (.file mode (content ++ bytes)))
    | some position =>
      .ok (bytes.length, { handle with position := some (position + bytes.length) },
        files.replace handle.node (.file mode (overwrite content position bytes)))
  | _ => .error .noSuchEntry

end FileSystem

end InteractiveShell
