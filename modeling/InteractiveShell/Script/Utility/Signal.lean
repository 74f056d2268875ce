import InteractiveShell.Script.Utility.Job

/-!
# The utilities for signals

A script sends signals, which reach itself alone, and says what is to be run when one arrives.
-/

namespace InteractiveShell

namespace Script

/-- The process after the arrival of a signal for which nothing is to be run. -/
def Process.struck (process : Process) (signal : Nat) : Process :=
  if Signal.harmless.contains signal then process
  else { process with control := .killed signal, status := 128 + signal }

/-- The process after the arrival of a signal.  Zero is none. -/
def Process.receive (process : Process) (signal : Nat) : Process :=
  let answer? := process.answerTo? signal
  if signal = 0 then process
  else if process.isPart || answer?.any fun action => !action.isEmpty then
    { process with arrived := process.arrived ++ [signal] }
  else if answer?.isSome then process
  else process.struck signal

/-- How `kill` is used. -/
def killUsage : String :=
  "Usage: kill [-s sigspec | -signum | -sigspec] [pid | job]... or\nkill -l [exitstatus]"

/-- Lists the signals, or names one. -/
def listSignals (process : Process) (operands : List Bytes) : Process :=
  match operands with
  | [] =>
    let known := (List.range (Signal.names.length + 1)).drop 1
    let lines := known.map fun signal => Signal.nameOf signal ++ bytes "\n"
    (process.emit 1 (bytes "0\n" ++ lines.flatten)).withStatus 0
  | code :: _ =>
    withNumber process code fun status =>
      let signal := if 128 < status then status - 128 else status
      if 0 < signal && signal < Signal.bound then
        (process.emit 1 (Signal.nameOf signal ++ bytes "\n")).withStatus 0
      else process.abort (bytes "invalid signal number or exit status: " ++ code)

/-- What `kill` is asked for. -/
structure KillRequest where
  /-- The signal to be sent, if one is named. -/
  signal : Option Nat
  /-- Whether signals are to be listed. -/
  isListing : Bool
  operands : List Bytes

namespace KillRequest

/-- A request in front of which a signal is named, which counts if no other one is. -/
def withSignal (given : Bytes) (behind : Except Bytes KillRequest) : Except Bytes KillRequest :=
  match Signal.ofText? given with
  | some signal =>
    behind.map fun request => { request with signal := request.signal.or (some signal) }
  | none => .error (bytes "invalid signal number or name: " ++ given)

/-- Reads the options of `kill`. -/
def ofArguments : List Bytes → Except Bytes KillRequest
  | [] => .ok ⟨none, false, []⟩
  | argument :: rest =>
    match textOf argument with
    | ['-', '-'] => .ok ⟨none, false, rest⟩
    | '-' :: first :: others =>
      let lists := (first :: others).takeWhile fun letter => letter = 'l'
      let found :=
        match (first :: others).drop lists.length with
        | [] => ofArguments rest
        | ['s'] =>
          match rest with
          | [] => .error (bytes "No arg for -s option")
          | given :: behind => withSignal given (ofArguments behind)
        | 's' :: given => withSignal (bytesOf given) (ofArguments rest)
        | wrong :: _ => .error (bytes "Illegal option -" ++ bytesOf [wrong])
      found.map fun request =>
        { request with isListing := request.isListing || !lists.isEmpty }
    | _ => .ok ⟨none, false, argument :: rest⟩

end KillRequest

/-- Sends a signal; a script can only reach itself. -/
def sendSignal (process : Process) (signal : Nat) (targets : List Bytes) : Process :=
  targets.foldl
    (fun process target =>
      let unreached := process.fail 1 (bytes "No such process\n")
      if !process.isRunning then process
      else
        match textOf target with
        | '%' :: _ => process.withJob target fun _ => unreached
        | '-' :: group => withNumber process (bytesOf group) fun _ => unreached
        | _ =>
          withNumber process target fun number =>
            let isThere := process.jobs.any fun job => job.number = number && !job.isAwaited
            if number = ownNumber then process.receive signal
            else if isThere then process
            else unreached)
    (process.withStatus 0)

/-- Sends a signal, or lists the signals. -/
def kill (process : Process) (arguments : List Bytes) : Process :=
  let usage := process.abort (bytes killUsage)
  let send (signal : Nat) (targets : List Bytes) : Process :=
    if targets.isEmpty then usage else sendSignal process signal targets
  let named := arguments.head?.bind fun first =>
    if first.head? = some (ascii '-') then Signal.ofText? (first.drop 1) else none
  match named with
  | some signal => send signal (arguments.drop 1)
  | none =>
    match KillRequest.ofArguments arguments with
    | .error complaint => process.abort complaint
    | .ok ⟨signal, true, operands⟩ =>
      if signal.isSome && !operands.isEmpty then usage else listSignals process operands
    | .ok ⟨signal, false, operands⟩ => send (signal.getD Signal.termination) operands

/-- Says what is to be run on the arrival of signals. -/
def trap (process : Process) (arguments : List Bytes) : Process :=
  withOptions "" process arguments fun _ operands =>
    match operands with
    | [] =>
      let lines := (List.range Signal.bound).filterMap fun signal =>
        (process.trap? signal).map fun action =>
          bytes "trap -- " ++ quoteValue action ++ bytes " " ++ Signal.nameOf signal ++ bytes "\n"
      (process.emit 1 lines.flatten).withStatus 0
    | first :: rest =>
      let isReset := rest.isEmpty || (Signal.ofNumber? first).isSome
      let action? := if isReset || first = bytes "-" then none else some first
      (if isReset then operands else rest).foldl
        (fun process name =>
          if process.status ≠ 0 then process
          else
            match if Signal.isEnd name then some 0 else Signal.ofText? name with
            | none =>
              let complaint := bytes "trap: " ++ name ++ bytes ": bad trap\n"
              ((process.write? 2 complaint).getD process).withStatus 1
            | some signal =>
              let others := process.traps.filter fun trap => trap.1 ≠ signal
              { process with
                traps := others ++ (action?.map fun action => (signal, action)).toList })
        (process.withStatus 0)

end Script

end InteractiveShell
