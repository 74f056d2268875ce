import InteractiveShell.Script.Utility.Basic

/-!
# The utilities for jobs

A script waits for its jobs and lists them.  It cannot go on with one in front of itself, because
there is no terminal for that.
-/

namespace InteractiveShell

namespace Script

namespace Process

/-- Goes on with the job that an argument names. -/
def withJob (process : Process) (argument : Bytes) (go : Job → Process) : Process :=
  match Job.find process.jobs (textOf argument) with
  | .ok job => go job
  | .error complaint => process.abort (bytesOf complaint.toList)

/-- The process after it waited for a job.  A signal that ended the job is told at the first
time. -/
def await (process : Process) (job : Job) : Process :=
  let jobs := process.jobs.map fun other =>
    if other.place = job.place then { other with isAwaited := true } else other
  let awaited := { process with jobs := jobs, status := job.status }
  if job.isAwaited then awaited else awaited.tell job.signal

/-- Shows a job, which leaves its place. -/
def showJob (process : Process) (showsNumber : Bool) (job : Job) : Process :=
  let shown := process.emit 1 (bytesOf (job.line process.jobs showsNumber))
  { shown with jobs := process.jobs.filter fun other => other.place ≠ job.place }

end Process

/-- Waits for jobs and gives the status of the last one, or else waits for all of them. -/
def wait (process : Process) (arguments : List Bytes) : Process :=
  withOptions "" process arguments fun _ operands =>
    if operands.isEmpty then
      { process with
        jobs := process.jobs.map fun job => { job with isAwaited := true }
        status := 0 }
    else
      operands.foldl
        (fun process operand =>
          if !process.isRunning then process
          else if operand.head? = some (ascii '%') then process.withJob operand process.await
          else
            withNumber process operand fun number =>
              match process.jobs.find? fun job => job.number = number with
              | some job => process.await job
              | none => process)
        (process.withStatus 127)

/-- Lists jobs, or the number of the first process of each. -/
def listJobs (process : Process) (arguments : List Bytes) : Process :=
  withOptions "lp" process arguments fun letters operands =>
    let list (process : Process) (job : Job) : Process :=
      if letters.getLast? = some 'p' then
        process.emit 1 (decimal (job.number + 1 - job.size) ++ bytes "\n")
      else process.showJob (letters.getLast? = some 'l') job
    let start := process.withStatus 0
    if operands.isEmpty then process.jobs.foldl list start
    else
      operands.foldl
        (fun process operand =>
          if process.isRunning then process.withJob operand (list process) else process)
        start

/-- Goes on with a job, which needs a terminal. -/
def resumeJob (process : Process) (arguments : List Bytes) : Process :=
  withOptions "" process arguments fun _ operands =>
    let operand := operands.head?
    process.withJob (operand.getD (bytes "%")) fun _ =>
      process.abort (bytes "job " ++ operand.getD (bytes "(null)") ++
        bytes " not created under job control")

end Script

end InteractiveShell
