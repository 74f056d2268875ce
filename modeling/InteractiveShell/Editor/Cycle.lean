import InteractiveShell.Editor.Line
import InteractiveShell.Outlet
import InteractiveShell.Text.Utf8

/-!
# Edit cycles over a stream

A stream is the list of what arrives on it: bytes, interruptions of a read, which are passed over,
and failures.  Behind the last arrival the input has ended for good.

`runCycle` feeds a stream to a decoder, the decoded keys to an edit and what the edit shows to an
outlet, until the edit ends, a read fails or a write fails.  What it leaves unread is for the next
cycle.  An unfinished key neither survives a cycle nor a failure.
-/

namespace InteractiveShell

/-- What one read of a stream meets. -/
inductive Arrival where
  | byte (value : UInt8)
  /-- The read was interrupted and is tried again. -/
  | interruption
  | failure (cause : SystemError)
deriving DecidableEq

/-- The bytes among the arrivals. -/
def Arrival.bytes (arrivals : List Arrival) : Bytes :=
  arrivals.filterMap fun
    | .byte value => some value
    | _ => none

/-- How far a cycle has come: the edit goes on, or it has ended or failed. -/
inductive Progress (σ : Type) where
  | editing (edit : Edit) (output : σ)
  | stopped (result : Except SystemError Outcome) (output : σ)

/-- Shows a text and then ends with an outcome. -/
def Outcome.conclude {σ : Type} (outlet : Outlet σ) (output : σ) (outcome : Outcome)
    (shown : Text) : Except SystemError Outcome × σ :=
  let (written, after) := outlet.writeAll output shown.encode
  (written.map fun _ => outcome, after)

theorem eq_of_conclude_eq_ok {σ : Type} {outlet : Outlet σ} {output : σ}
    {outcome result : Outcome} {shown : Text}
    (concluded : (outcome.conclude outlet output shown).1 = .ok result) :
    result = outcome := by
  simp only [Outcome.conclude] at concluded
  cases written : outlet.writeAll output shown.encode with
  | mk answer after =>
    cases answer with
    | error cause => simp [written, Except.map] at concluded
    | ok _ => simpa [written, Except.map] using concluded.symm

/-- Shows what a reaction shows and then does what it does. -/
def Reaction.perform {σ : Type} (outlet : Outlet σ) (output : σ) : Reaction → Progress σ
  | .proceed edit shown =>
    match outlet.writeAll output shown.encode with
    | (.ok (), after) => .editing edit after
    | (.error cause, after) => .stopped (.error cause) after
  | .finish outcome shown =>
    let (result, after) := outcome.conclude outlet output shown
    .stopped result after

/-- Presses keys one after the other until one of them ends the edit. -/
def Edit.pressAll {σ : Type} (completer : Completer) (outlet : Outlet σ)
    (edit : Edit) (output : σ) : List Char → Progress σ
  | [] => .editing edit output
  | key :: rest =>
    match (edit.press completer key).perform outlet output with
    | .editing edit output => edit.pressAll completer outlet output rest
    | stopped => stopped

/-- The end of a cycle. -/
structure CycleEnd (σ : Type) where
  result : Except SystemError Outcome
  /-- What the cycle left on the stream. -/
  unread : List Arrival
  output : σ

/-- Runs an edit over a stream from a state of the decoder and the edit. -/
def runEdit {σ : Type} (completer : Completer) (outlet : Outlet σ)
    (decoder : Utf8.Decoder) (edit : Edit) (output : σ) : List Arrival → CycleEnd σ
  | [] =>
    match edit.pressAll completer outlet output decoder.finish with
    | .stopped result output => ⟨result, [], output⟩
    | .editing edit output =>
      let (outcome, shown) := edit.close
      let (result, output) := outcome.conclude outlet output shown
      ⟨result, [], output⟩
  | .interruption :: rest => runEdit completer outlet decoder edit output rest
  | .failure cause :: rest => ⟨.error cause, rest, output⟩
  | .byte value :: rest =>
    let (next, keys) := decoder.feed value
    match edit.pressAll completer outlet output keys with
    | .stopped result output => ⟨result, rest, output⟩
    | .editing edit output => runEdit completer outlet next edit output rest

/-- Runs one edit cycle over a stream.  The seed is on the terminal already. -/
def runCycle {σ : Type} (completer : Completer) (outlet : Outlet σ)
    (seed : Text) (output : σ) (arrivals : List Arrival) : CycleEnd σ :=
  runEdit completer outlet .idle (.start seed) output arrivals

/-! ### What a cycle leaves unread -/

/-- An edit leaves less than it finds, unless it finds nothing. -/
theorem unread_runEdit_lt {σ : Type} (completer : Completer) (outlet : Outlet σ)
    (decoder : Utf8.Decoder) (edit : Edit) (output : σ) (arrival : Arrival)
    (rest : List Arrival) :
    (runEdit completer outlet decoder edit output (arrival :: rest)).unread.length <
      (arrival :: rest).length := by
  induction rest generalizing decoder edit output arrival with
  | nil =>
    cases arrival with
    | interruption =>
      simp only [runEdit]
      split <;> simp
    | failure cause => simp [runEdit]
    | byte value =>
      simp only [runEdit]
      split
      · simp
      · split <;> simp
  | cons second rest ih =>
    cases arrival with
    | interruption =>
      simp only [runEdit.eq_2]
      exact Nat.lt_succ_of_lt (ih ..)
    | failure cause => simp [runEdit]
    | byte value =>
      simp only [runEdit.eq_4]
      split
      · simp
      · exact Nat.lt_succ_of_lt (ih ..)

/-- A cycle leaves less than it finds, unless it finds nothing. -/
theorem unread_runCycle_lt {σ : Type} (completer : Completer) (outlet : Outlet σ)
    (seed : Text) (output : σ) {arrivals : List Arrival} (found : arrivals ≠ []) :
    (runCycle completer outlet seed output arrivals).unread.length < arrivals.length := by
  cases arrivals with
  | nil => exact absurd rfl found
  | cons arrival rest => exact unread_runEdit_lt ..

/-- At the end of input a cycle ends as the seed's edit is closed. -/
theorem eq_close_of_runCycle_nil {σ : Type} {completer : Completer} {outlet : Outlet σ}
    {seed : Text} {output : σ} {outcome : Outcome}
    (ended : (runCycle completer outlet seed output []).result = .ok outcome) :
    outcome = (Edit.start seed).close.1 :=
  eq_of_conclude_eq_ok ended

/-- The seed of the cycle that follows an outcome, if another one follows. -/
def Outcome.nextSeed? : Outcome → Option Text
  | submitted _ => some []
  | listed buffer => some buffer
  | interrupted | endOfInput => none

/-- Runs at most the given number of cycles over one stream, each with an output of its own, and
gives the end of each. -/
def runCycles {σ : Type} (completer : Completer) (outlet : Outlet σ) (output : σ) :
    Nat → Text → List Arrival → List (CycleEnd σ)
  | 0, _, _ => []
  | count + 1, seed, arrivals =>
    let cycle := runCycle completer outlet seed output arrivals
    match cycle.result with
    | .ok outcome =>
      match outcome.nextSeed? with
      | some next => cycle :: runCycles completer outlet output count next cycle.unread
      | none => [cycle]
    | .error _ => [cycle]

end InteractiveShell
