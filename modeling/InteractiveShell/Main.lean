import InteractiveShell.FileSystem.Tree
import InteractiveShell.Script.Launch
import InteractiveShell.Session

/-!
# The shell as a program

A session over standard input, on a machine of its own that starts from the minimal file tree.  The
variables `PATH` and `HOME` are those of the program's environment.
-/

namespace InteractiveShell

/-- How many bytes are read at once. -/
def readSize : USize :=
  65536

/-- Why a read failed. -/
def SystemError.ofReadError : IO.Error → SystemError
  | .inappropriateType _ _ _ => .isDirectory
  | .timeExpired _ _ => .timedOut
  | _ => .brokenPipe

/-- Reads a stream to its end.  A failure is the last thing that arrives. -/
partial def readArrivals (stream : IO.FS.Stream) (arrived : Array Arrival) :
    IO (List Arrival) := do
  match ← (stream.read readSize).toBaseIO with
  | .error cause => return (arrived.push (.failure (.ofReadError cause))).toList
  | .ok bytes =>
    if bytes.isEmpty then
      return arrived.toList
    else
      let more := bytes.toList.map Arrival.byte
      readArrivals stream (arrived ++ more.toArray)

/-- Writes a transcript to the two output streams, in the order in which it was made. -/
def writeTranscript (transcript : Transcript) : IO Unit := do
  let stdout ← IO.getStdout
  let stderr ← IO.getStderr
  for (stream, bytes) in transcript.reverse do
    let target := if stream = .stdout then stdout else stderr
    target.write ⟨bytes.toArray⟩
    target.flush

end InteractiveShell

open InteractiveShell

/-- Runs a session and ends with its status. -/
def main : IO UInt32 := do
  let path ← IO.getEnv "PATH"
  let home ← IO.getEnv "HOME"
  let arrivals ← readArrivals (← IO.getStdin) #[]
  let world := { World.initial .minimal with
    environment := ⟨path.map String.toList, home.map String.toList⟩ }
  let (status, after) := runShell Script.launcher world arrivals
  writeTranscript after.transcript
  return UInt32.ofNat status
