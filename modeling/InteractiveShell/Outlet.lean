import InteractiveShell.SystemError

/-!
# Outlets

An outlet takes bytes in the state it finds, as many of them as it likes, or fails.
`Outlet.writeAll` repeats the write with the bytes that were left over until all are taken.

`Sink` is an outlet of its own: it keeps what it took and may have room for a limited number of
bytes only.
-/

namespace InteractiveShell

/-- How a destination answers one write of a non-empty run of bytes: it takes the first ones and
says how many, or it fails and takes none. -/
structure Outlet (σ : Type) where
  write : σ → Bytes → Except SystemError (Nat × σ)

/-- Writes bytes until all are taken or the outlet fails.  Nothing is asked of the outlet for an
empty run. -/
def Outlet.writeAll {σ : Type} (outlet : Outlet σ) (state : σ) (bytes : Bytes) :
    Except SystemError Unit × σ :=
  match bytes with
  | [] => (.ok (), state)
  | first :: rest =>
    match outlet.write state (first :: rest) with
    | .error cause => (.error cause, state)
    | .ok (0, after) => (.error .nothingTaken, after)
    | .ok (taken + 1, after) => outlet.writeAll after (rest.drop taken)
termination_by bytes.length
decreasing_by simp only [List.length_drop, List.length_cons]; omega

/-- A destination that keeps what it takes. -/
structure Sink where
  /-- How many more bytes there is room for; no limit if absent. -/
  room : Option Nat
  /-- The runs of bytes taken, the latest one first. -/
  taken : List Bytes

namespace Sink

/-- An empty sink, with room for a limited number of bytes if a limit is given. -/
def withRoom (room : Option Nat) : Sink :=
  ⟨room, []⟩

/-- All bytes taken, in order. -/
def bytes (sink : Sink) : Bytes :=
  sink.taken.reverse.flatten

/-- A write takes what there is room for.  Without any room it fails. -/
def outlet : Outlet Sink where
  write sink bytes :=
    match sink.room with
    | none => .ok (bytes.length, { sink with taken := bytes :: sink.taken })
    | some 0 => .error .brokenPipe
    | some room =>
      let accepted := bytes.take room
      .ok (accepted.length, ⟨some (room - accepted.length), accepted :: sink.taken⟩)

end Sink

end InteractiveShell
