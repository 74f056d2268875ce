import InteractiveShell.Outlet
import InteractiveShell.Proofs.Outlet.Keeping
import InteractiveShell.Proofs.Outlet.Steady

/-!
# Outlets with limited room

A meter reads off the state of an outlet which bytes it has taken and how many more it has room for.
A metered outlet takes what is written in pieces of any size; when its room is used up, it fails.

What is written to a metered outlet is compared with what a recording outlet takes, which takes
everything at once.  The metered outlet takes all of it as long as it has room, and otherwise the
first bytes of it, as many as it had room for.
-/

namespace InteractiveShell

/-- Reads off the state of an outlet. -/
structure Meter (σ : Type) where
  /-- The bytes taken so far. -/
  taken : σ → Bytes
  /-- How many more bytes there is room for; no limit if absent. -/
  room : σ → Option Nat

/-- Room before and behind some bytes. -/
inductive UsesUp : Option Nat → Nat → Option Nat → Prop where
  | unlimited (count : Nat) : UsesUp none count none
  | limited (count left : Nat) :
      UsesUp (some (count + left)) count (some left)

/--
An outlet takes a part of every write, however small, as long as there is
room, and then fails.
-/
structure Outlet.Metered {σ : Type} (outlet : Outlet σ) (meter : Meter σ) :
    Prop where
  refuses :
    ∀ state bytes, bytes ≠ [] → meter.room state = some 0 →
      outlet.write state bytes = .error .brokenPipe
  accepts :
    ∀ state bytes, bytes ≠ [] → meter.room state ≠ some 0 →
      ∃ front back after,
        bytes = front ++ back ∧
          front ≠ [] ∧
            outlet.write state bytes = .ok (front.length, after) ∧
              meter.taken after = meter.taken state ++ front ∧
                UsesUp (meter.room state) front.length (meter.room after)

/-- An outlet whose state is what it has taken. -/
def Outlet.recording : Outlet Bytes where
  write recorded bytes := .ok (bytes.length, recorded ++ bytes)

/-- Reads off a sink what it has taken. -/
def Sink.meter : Meter Sink :=
  ⟨Sink.bytes, Sink.room⟩

theorem UsesUp.zero (room : Option Nat) : UsesUp room 0 room := by
  cases room with
  | none => exact .unlimited 0
  | some left =>
      have used := UsesUp.limited 0 left
      rwa [Nat.zero_add] at used

theorem UsesUp.add
    {before between after : Option Nat} {first second : Nat}
    (front : UsesUp before first between)
    (back : UsesUp between second after) :
    UsesUp before (first + second) after := by
  cases back with
  | unlimited count =>
      cases front
      exact .unlimited _
  | limited count left =>
      cases front
      rw [← Nat.add_assoc]
      exact .limited _ _

theorem Sink.metered_outlet : Sink.outlet.Metered Sink.meter := by
  constructor
  · intro sink bytes nonempty full
    have spent : sink.room = some 0 := full
    simp [Sink.outlet, spent]
  · intro sink bytes nonempty free
    rcases bound : sink.room with _ | _ | room
    · refine
        ⟨bytes, [], { sink with taken := bytes :: sink.taken }, by simp,
          nonempty, by simp [Sink.outlet, bound], ?_, ?_⟩
      · simp [Sink.meter, Sink.bytes]
      · simp only [Sink.meter, bound]
        exact .unlimited _
    · exact absurd bound free
    · have short : (bytes.take (room + 1)).length ≤ room + 1 :=
        List.length_take_le (room + 1) bytes
      have answer :
          Sink.outlet.write sink bytes =
            .ok ((bytes.take (room + 1)).length,
              ⟨some (room + 1 - (bytes.take (room + 1)).length),
                bytes.take (room + 1) :: sink.taken⟩) := by
        simp only [Sink.outlet, bound]
      refine
        ⟨bytes.take (room + 1), bytes.drop (room + 1), _,
          (List.take_append_drop (room + 1) bytes).symm,
          by simpa using nonempty, answer, ?_, ?_⟩
      · simp [Sink.meter, Sink.bytes]
      · have used :=
          UsesUp.limited (bytes.take (room + 1)).length
            (room + 1 - (bytes.take (room + 1)).length)
        rw [Nat.add_sub_cancel' short] at used
        simpa only [Sink.meter, bound] using used

/-! ### Recorded and taken bytes -/

section Taking

variable {σ : Type} {meter : Meter σ}
variable {before between recorded : Bytes} {state middle after : σ}

/-- All that was recorded behind some bytes was taken. -/
def Meter.TakesAll (meter : Meter σ) (before : Bytes) (state : σ)
    (recorded : Bytes) (after : σ) : Prop :=
  ∃ written,
    recorded = before ++ written ∧
      meter.taken after = meter.taken state ++ written ∧
        UsesUp (meter.room state) written.length (meter.room after)

/-- Of what was recorded behind some bytes only as much was taken as there was room for. -/
def Meter.TakesPart (meter : Meter σ) (before : Bytes) (state : σ)
    (recorded : Bytes) (after : σ) : Prop :=
  ∃ written limit,
    recorded = before ++ written ∧
      meter.room state = some limit ∧
        limit < written.length ∧
          meter.taken after = meter.taken state ++ written.take limit

theorem Meter.TakesAll.refl (meter : Meter σ) (before : Bytes) (state : σ) :
    meter.TakesAll before state before state :=
  ⟨[], by simp, by simp, .zero _⟩

theorem Meter.TakesAll.trans
    (front : meter.TakesAll before state between middle)
    (back : meter.TakesAll between middle recorded after) :
    meter.TakesAll before state recorded after := by
  rcases front with ⟨first, rfl, held, used⟩
  rcases back with ⟨second, rfl, added, spent⟩
  refine ⟨first ++ second, ?_, ?_, ?_⟩
  · rw [List.append_assoc]
  · rw [added, held, List.append_assoc]
  · rw [List.length_append]
    exact used.add spent

theorem Meter.TakesAll.takesPart
    (front : meter.TakesAll before state between middle)
    (back : meter.TakesPart between middle recorded after) :
    meter.TakesPart before state recorded after := by
  rcases front with ⟨first, rfl, held, used⟩
  rcases back with ⟨second, left, rfl, room, exceeds, added⟩
  rw [room] at used
  generalize begun : meter.room state = begins at used
  cases used
  refine ⟨first ++ second, first.length + left, ?_, begun, ?_, ?_⟩
  · rw [List.append_assoc]
  · rw [List.length_append]
    omega
  · rw [added, held, List.append_assoc, List.take_length_add_append]

theorem Meter.TakesPart.extend
    (part : meter.TakesPart before state between after)
    (grows : between <+: recorded) :
    meter.TakesPart before state recorded after := by
  rcases part with ⟨written, limit, rfl, room, exceeds, held⟩
  rcases grows with ⟨more, rfl⟩
  refine ⟨written ++ more, limit, ?_, room, ?_, ?_⟩
  · rw [List.append_assoc]
  · rw [List.length_append]
    omega
  · rw [held, List.take_append_of_le_length (Nat.le_of_lt exceeds)]

/-- An outlet without a limit takes all that was recorded. -/
theorem Meter.not_takesPart
    (unlimited : meter.room state = none) :
    ¬ meter.TakesPart before state recorded after := by
  rintro ⟨written, limit, _, room, _⟩
  rw [unlimited] at room
  cases room

end Taking

/-! ### The recording outlet -/

theorem Outlet.writeAll_recording (before bytes : Bytes) :
    Outlet.recording.writeAll before bytes = (.ok (), before ++ bytes) := by
  cases bytes with
  | nil =>
      rw [Outlet.writeAll, List.append_nil]
  | cons first rest =>
      rw [Outlet.writeAll]
      simp only [Outlet.recording, List.length_cons, List.drop_length]
      rw [Outlet.writeAll]

theorem Outlet.recording_keeps (before : Bytes) :
    Outlet.recording.Keeps fun recorded => before <+: recorded := by
  intro recorded bytes taken after grown written
  cases written
  exact grown.trans (List.prefix_append recorded bytes)

theorem Outlet.recording_steady :
    Outlet.recording.Steady fun _ => True := by
  intro recorded bytes _ nonempty
  cases bytes with
  | nil => exact absurd rfl nonempty
  | cons first rest => exact ⟨rest.length, _, rfl, trivial⟩

/-! ### Writing to a metered outlet -/

section Writing

variable {σ : Type} {outlet : Outlet σ} {meter : Meter σ}

theorem Outlet.Metered.exists_of_write_eq_ok
    (metered : outlet.Metered meter) {state after : σ} {bytes : Bytes}
    {count : Nat} (nonempty : bytes ≠ [])
    (written : outlet.write state bytes = .ok (count, after)) :
    ∃ front back,
      bytes = front ++ back ∧
        front ≠ [] ∧
          count = front.length ∧
            meter.taken after = meter.taken state ++ front ∧
              UsesUp (meter.room state) front.length (meter.room after) := by
  have free : meter.room state ≠ some 0 := by
    intro full
    have refused := metered.refuses state bytes nonempty full
    rw [written] at refused
    cases refused
  rcases metered.accepts state bytes nonempty free with
    ⟨front, back, later, pieces, begun, answer, held, used⟩
  rw [written] at answer
  cases answer
  exact ⟨front, back, pieces, begun, rfl, held, used⟩

/--
A metered outlet takes all of a run of bytes, or it fails behind as many of
them as there was room for.
-/
theorem Outlet.Metered.writeAll
    (metered : outlet.Metered meter) (before : Bytes) (state : σ)
    (bytes : Bytes) :
    (∃ after,
        outlet.writeAll state bytes = (.ok (), after) ∧
          meter.TakesAll before state (before ++ bytes) after) ∨
      ∃ after,
        outlet.writeAll state bytes = (.error .brokenPipe, after) ∧
          meter.TakesPart before state (before ++ bytes) after := by
  fun_induction Outlet.writeAll outlet state bytes generalizing before with
  | case1 state =>
      left
      refine ⟨state, rfl, ?_⟩
      rw [List.append_nil]
      exact .refl meter before state
  | case2 state first rest cause written =>
      right
      have nonempty : first :: rest ≠ [] := List.cons_ne_nil first rest
      by_cases full : meter.room state = some 0
      · have refused := metered.refuses state _ nonempty full
        rw [written] at refused
        cases refused
        exact ⟨state, rfl, first :: rest, 0, rfl, full, by simp, by simp⟩
      · rcases metered.accepts state _ nonempty full with
          ⟨front, back, after, _, _, answer, _⟩
        rw [written] at answer
        cases answer
  | case3 state first rest after written =>
      rcases metered.exists_of_write_eq_ok (List.cons_ne_nil first rest)
          written with
        ⟨front, back, _, begun, size, _⟩
      exact absurd (List.length_eq_zero_iff.mp size.symm) begun
  | case4 state first rest taken after written ih =>
      rcases metered.exists_of_write_eq_ok (List.cons_ne_nil first rest)
          written with
        ⟨front, back, pieces, begun, size, held, used⟩
      have behind : rest.drop taken = back := by
        have dropped := congrArg (List.drop taken.succ) pieces
        rwa [size, List.drop_left, ← size, List.drop_succ_cons] at dropped
      have piece :
          meter.TakesAll before state (before ++ front) after :=
        ⟨front, rfl, held, used⟩
      have later := ih (before ++ front)
      rw [behind, List.append_assoc, ← pieces] at later
      rw [behind]
      rcases later with ⟨last, done, all⟩ | ⟨last, failed, part⟩
      · exact .inl ⟨last, done, piece.trans all⟩
      · exact .inr ⟨last, failed, piece.takesPart part⟩

end Writing

end InteractiveShell
