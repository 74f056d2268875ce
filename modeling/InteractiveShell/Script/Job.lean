import InteractiveShell.Script.Signal

/-!
# Jobs

What a script runs behind itself is a job, which has ended when the script goes on.  A job keeps its
place among the others until it is listed.  Once it was waited for, another process may take its
place.

The jobs of a script are given with the latest one first.
-/

namespace InteractiveShell

namespace Script

/-- Processes that ran behind a script at the same time. -/
structure Job where
  /-- The place among the jobs, counted from one. -/
  place : Nat
  /-- The number of the last process. -/
  number : Nat
  /-- How many processes there are. -/
  size : Nat
  /-- The status with which the last process ended. -/
  status : Nat
  /-- The signal that ended the last process, if one did. -/
  signal : Option Nat
  /-- Whether it was waited for. -/
  isAwaited : Bool

namespace Job

/-- The lowest place that new processes can take, and the jobs without one in it. -/
def vacate (jobs : List Job) : Nat × List Job :=
  let isKept (place : Nat) : Bool :=
    jobs.any fun job => job.place = place && !job.isAwaited
  let places := (List.range (jobs.length + 1)).map Nat.succ
  let place := (places.find? fun place => !isKept place).getD 1
  (place, jobs.filter fun job => job.place ≠ place)

/-- The job that a text behind a percent sign names, or why there is none, in words. -/
def find (jobs : List Job) (name : Text) : Except String Job :=
  let shown := String.ofList name
  let orElse (complaint : String) (found : Option Job) : Except String Job :=
    match found with
    | some job => .ok job
    | none => .error complaint
  match name with
  | ['%'] | ['%', '%'] | ['%', '+'] => orElse "No current job" jobs.head?
  | ['%', '-'] => orElse "No previous job" jobs[1]?
  | ['%', '?'] =>
    if 1 < jobs.length then .error (shown ++ ": ambiguous")
    else orElse ("No such job: " ++ shown) jobs.head?
  | '%' :: digits =>
    let place := naturalNumber? (Text.encode digits)
    orElse ("No such job: " ++ shown) (jobs.find? fun job => some job.place = place)
  | _ => .error ("No such job: " ++ shown)

/-- How a job ended, in words. -/
def ending (job : Job) : String :=
  match job.signal with
  | some signal => Signal.description signal
  | none => if job.status = 0 then "Done" else "Done(" ++ toString job.status ++ ")"

/-- The line that shows a job among all of them.  The latest two are marked. -/
def line (jobs : List Job) (showsNumber : Bool) (job : Job) : Text :=
  let mark :=
    if jobs.head?.any fun latest => latest.place = job.place then "+"
    else if jobs[1]?.any fun previous => previous.place = job.place then "-"
    else " "
  let number := if showsNumber then toString job.number ++ " " else ""
  let front := "[" ++ toString job.place ++ "] " ++ mark ++ " " ++ number ++ job.ending
  let gap := List.replicate (max 1 (33 - front.length)) ' '
  let others := (List.replicate (job.size - 1) " | ".toList).flatten
  front.toList ++ gap ++ others ++ ['\n']

end Job

end Script

end InteractiveShell
