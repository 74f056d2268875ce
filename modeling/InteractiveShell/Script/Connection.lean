import InteractiveShell.Script.Utility

/-!
# Redirections in scripts

A redirection in a script connects a descriptor to a file, to what another descriptor is connected
to, or to what stands in the script itself.
-/

namespace InteractiveShell

namespace Script

/-- Why a path cannot be opened, in words.  What is said about something that is not there depends
on what was to be done with it. -/
def openFailure (missing : String) (cause : SystemError) : String :=
  match cause with
  | .noSuchEntry | .notDirectory => missing
  | _ => cause.description

/-- Whether a target can be that of a redirection.  A descriptor is named by a digit. -/
def isTarget (kind : RedirectKind) (target : Bytes) : Bool :=
  match kind, target with
  | .duplicate, [mark] => mark = ascii '-' || isDecimal mark
  | .duplicate, _ => false
  | _, _ => true

namespace Process

/-- Whether a path leads to what is to be kept where files are kept. -/
def keepsFile (process : Process) (path : Text) : Bool :=
  match (process.files.resolve process.directory path).toOption.bind process.files.node? with
  | some (.file _ _) => true
  | some _ => false
  | none => process.files.isLink process.directory path

/-- Whether a path leads to a directory. -/
def leadsToDirectory (process : Process) (path : Text) : Bool :=
  (process.files.resolveDirectory process.directory path).toOption.isSome

/-- Opens what a redirection reads or writes; fails with the reason in words. -/
def openFor (process : Process) (kind : RedirectKind) (target : Bytes) :
    Except Bytes (OpenFile × FileSystem) :=
  let path := Utf8.decode target
  let failed (action reason : String) : Except Bytes (OpenFile × FileSystem) :=
    .error (bytes ("cannot " ++ action ++ " ") ++ target ++ bytes (": " ++ reason))
  let opened (mode : WriteMode) (connect : Handle → OpenFile) :
      Except Bytes (OpenFile × FileSystem) :=
    match process.files.openForWriting process.directory path mode with
    | .ok (handle, files) => .ok (connect handle, files)
    | .error cause => failed "create" (openFailure "Directory nonexistent" cause)
  match kind with
  | .input =>
    match process.files.resolve process.directory path with
    | .ok id => .ok (.file ⟨id, some 0⟩ .reading, process.files)
    | .error cause => failed "open" (openFailure "No such file" cause)
  | .output mode anyway =>
    let keeps := process.has .keepFiles && !anyway
    if keeps && process.leadsToDirectory path then
      failed "open" SystemError.isDirectory.description
    else if keeps && process.keepsFile path then failed "create" "File exists"
    else opened mode fun handle => .file handle .writing
  | .both => opened .append fun handle => .file { handle with position := some 0 } .both
  | .document => .ok (.pipe target [], process.files)
  | .duplicate => .ok (.pipe [] [], process.files)

/-- Carries out a redirection; fails with the reason in words. -/
def redirect (process : Process) (descriptor : Nat) (kind : RedirectKind) (target : Bytes) :
    Except Bytes Process :=
  let source := digitsIn 10 target
  if kind ≠ .duplicate then
    (process.openFor kind target).map fun (file, files) =>
      { process with files := files }.connectTo descriptor file
  else if target = bytes "-" then .ok (process.disconnect descriptor)
  else if source = descriptor then .ok process
  else
    match process.channels.lookup source with
    | some channel => .ok (process.connect descriptor channel)
    | none => .error (decimal source ++ bytes ": Bad file descriptor")

/-- The process in which a redirection that failed complains.  What is to be another name of a
descriptor is closed before. -/
def beforeComplaint (process : Process) (redirect : Redirect) : Process :=
  if redirect.kind = .duplicate then process.disconnect redirect.descriptor else process

/-- The process after redirections of which one failed, connected as it was before. -/
def afterFailure (process earlier : Process) : Process :=
  { process with
    channels := earlier.channels
    busy := earlier.busy
    control := .running
    status := 2 }

/-- The process after commands that ran with redirections, with its descriptors as they were. -/
def afterRedirects (process earlier : Process) (redirects : List Redirect) : Process :=
  let restored := process.reconnect earlier.channels (redirects.map Redirect.descriptor)
  { restored with busy := earlier.busy }.closeSince earlier

end Process

end Script

end InteractiveShell
