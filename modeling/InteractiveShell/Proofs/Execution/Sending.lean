import InteractiveShell.Proofs.Execution.Frame
import InteractiveShell.Proofs.FileSystem.Content

/-!
# Where the output of a command goes

In a delivery the stream that is led to an open file ends up behind what the file holds, and the
other one, or both, on the terminal.  `Delivery.sends_of_send` says so for a delivery that succeeds:
standard error is there in full before standard output, and nothing is there twice or in two places.
-/

namespace InteractiveShell

/-- The bytes of a transcript in the order of writing, each with its stream. -/
def Transcript.labelled (transcript : Transcript) : List (Stream × UInt8) :=
  transcript.reverse.flatMap fun (stream, bytes) =>
    bytes.map fun byte => (stream, byte)

@[simp]
theorem Transcript.labelled_cons
    (stream : Stream) (bytes : Bytes) (transcript : Transcript) :
    labelled ((stream, bytes) :: transcript) =
      labelled transcript ++ bytes.map fun byte => (stream, byte) := by
  simp [labelled]

/-- Whether the terminal shows what is written to one of the shell's own streams. -/
def World.shows (world : World) (stream : Stream) : Bool :=
  match stream, world.output with
  | .stdout, .device _ => false
  | _, _ => true

/-- The captured bytes of one stream. -/
def Output.of (output : Output) : Stream → Bytes
  | .stdout => output.stdout
  | .stderr => output.stderr

/-- The bytes of a stream, each with the stream, unless the stream is led to a file. -/
def Stream.unredirected (stream : Stream) (redirected? : Option Stream)
    (bytes : Bytes) : List (Stream × UInt8) :=
  if redirected? = some stream then []
  else bytes.map fun byte => (stream, byte)

/-- The bytes of an output that are not led to a file, standard error first. -/
def Output.unredirected (output : Output) (redirected? : Option Stream) :
    List (Stream × UInt8) :=
  Stream.stderr.unredirected redirected? output.stderr ++
    Stream.stdout.unredirected redirected? output.stdout

/-- The part of some bytes that the terminal shows. -/
def World.visible (world : World) (entries : List (Stream × UInt8)) :
    List (Stream × UInt8) :=
  entries.filter fun entry => world.shows entry.1

theorem World.visible_map
    (world : World) (stream : Stream) (bytes : Bytes) :
    world.visible (bytes.map fun byte => (stream, byte)) =
      if world.shows stream then bytes.map fun byte => (stream, byte)
      else [] := by
  by_cases shown : world.shows stream = true
  · rw [if_pos shown]
    apply List.filter_eq_self.mpr
    simp [shown]
  · rw [if_neg shown]
    apply List.filter_eq_nil_iff.mpr
    simp [shown]

theorem Outlet.writeAll_eq_ok_of_takes_all
    {σ : Type} {outlet : Outlet σ} {state after : σ} {bytes : Bytes}
    (whole :
      ∀ taken next, outlet.write state bytes = .ok (taken, next) →
        taken = bytes.length)
    (written : outlet.writeAll state bytes = (.ok (), after)) :
    (bytes = [] ∧ after = state) ∨
      outlet.write state bytes = .ok (bytes.length, after) := by
  cases bytes with
  | nil =>
      rw [writeAll] at written
      cases written
      exact Or.inl ⟨rfl, rfl⟩
  | cons first rest =>
      right
      rw [writeAll] at written
      split at written
      · cases written
      · cases written
      · rename_i taken next answered
        have length := whole _ _ answered
        have drained : rest.drop taken = [] := by
          rw [Nat.succ.inj length, List.drop_length]
        rw [drained, writeAll] at written
        cases written
        rw [answered, length]

namespace Delivery

/-- What a delivery is after it took the bytes of a stream. -/
inductive Takes (stream : Stream) (bytes : Bytes) :
    Delivery → Delivery → Prop where
  | intoFile {world : World} {handle moved : Handle} {files : FileSystem}
      (writes : FileSystem.Writes bytes world.files handle moved files) :
      Takes stream bytes ⟨world, some (stream, handle)⟩
        ⟨{ world with files := files }, some (stream, moved)⟩
  | ontoTerminal {world : World} {redirected : Option (Stream × Handle)}
      {transcript : Transcript}
      (apart : redirected.map Prod.fst ≠ some stream)
      (grown :
        transcript.labelled =
          world.transcript.labelled ++
            if world.shows stream then
              bytes.map fun byte => (stream, byte)
            else []) :
      Takes stream bytes ⟨world, redirected⟩
        ⟨{ world with transcript := transcript }, redirected⟩

theorem Takes.nothing (stream : Stream) (delivery : Delivery) :
    Takes stream [] delivery delivery := by
  rcases delivery with ⟨world, redirected⟩
  by_cases led : redirected.map Prod.fst = some stream
  · rcases Option.map_eq_some_iff.mp led with ⟨⟨source, handle⟩, rfl, rfl⟩
    exact .intoFile (.nothing world.files handle)
  · exact .ontoTerminal led (by simp)

theorem takes_of_write_terminal
    {stream : Stream} {bytes : Bytes} {taken : Nat} {world after : World}
    {redirected : Option (Stream × Handle)}
    (apart : redirected.map Prod.fst ≠ some stream)
    (written : (World.outlet stream).write world bytes = .ok (taken, after)) :
    taken = bytes.length ∧
      Takes stream bytes ⟨world, redirected⟩ ⟨after, redirected⟩ := by
  have recorded (shown : world.shows stream = true) :
      Takes stream bytes ⟨world, redirected⟩
        ⟨world.record stream bytes, redirected⟩ :=
    .ontoTerminal apart (by simp [shown])
  cases stream with
  | stderr =>
      cases written
      exact ⟨rfl, recorded rfl⟩
  | stdout =>
      rcases connected : world.output with _ | device
      · simp only [World.outlet, connected] at written
        cases written
        exact ⟨rfl, recorded (by simp [World.shows, connected])⟩
      · simp only [World.outlet, connected] at written
        cases device with
        | null =>
            cases written
            exact
              ⟨rfl, .ontoTerminal apart (by simp [World.shows, connected])⟩
        | full => cases written

theorem takes_of_write
    {stream : Stream} {bytes : Bytes} {taken : Nat}
    {delivery after : Delivery}
    (written : (outlet stream).write delivery bytes = .ok (taken, after)) :
    taken = bytes.length ∧ Takes stream bytes delivery after := by
  rcases outlet_eq_ok written with
    ⟨handle, moved, files, led, answered, rfl⟩ | ⟨apart, world, shown, rfl⟩
  · rcases delivery with ⟨world, redirected⟩
    simp only at led answered
    subst led
    rcases FileSystem.writes_of_write answered with ⟨whole, writes⟩
    exact ⟨whole, .intoFile writes⟩
  · exact takes_of_write_terminal apart shown

theorem takes_of_writeAll
    {stream : Stream} {bytes : Bytes} {delivery after : Delivery}
    (written : (outlet stream).writeAll delivery bytes = (.ok (), after)) :
    Takes stream bytes delivery after := by
  have whole (taken : Nat) (next : Delivery)
      (answered :
        (outlet stream).write delivery bytes = .ok (taken, next)) :
      taken = bytes.length :=
    (takes_of_write answered).1
  rcases Outlet.writeAll_eq_ok_of_takes_all whole written with
    ⟨rfl, rfl⟩ | answered
  · exact .nothing stream after
  · exact (takes_of_write answered).2

section Takes

variable {stream : Stream} {bytes : Bytes} {delivery after : Delivery}

theorem Takes.shows (takes : Takes stream bytes delivery after) :
    after.world.shows = delivery.world.shows := by
  cases takes <;> rfl

theorem Takes.source (takes : Takes stream bytes delivery after) :
    after.redirected.map Prod.fst = delivery.redirected.map Prod.fst := by
  cases takes <;> rfl

theorem Takes.transcript (takes : Takes stream bytes delivery after) :
    after.world.transcript.labelled =
      delivery.world.transcript.labelled ++
        delivery.world.visible
          (stream.unredirected (delivery.redirected.map Prod.fst) bytes) := by
  cases takes with
  | intoFile writes => simp [Stream.unredirected, World.visible]
  | ontoTerminal apart grown =>
      rename_i world redirected transcript
      rw [grown, Stream.unredirected, if_neg apart, World.visible_map]

theorem Takes.files (takes : Takes stream bytes delivery after)
    (free : delivery.redirected = none) :
    after.redirected = none ∧ after.world.files = delivery.world.files := by
  cases takes with
  | intoFile writes => cases free
  | ontoTerminal apart grown => exact ⟨free, rfl⟩

theorem Takes.target (takes : Takes stream bytes delivery after)
    {source : Stream} {handle : Handle}
    (led : delivery.redirected = some (source, handle)) :
    ∃ moved,
      after.redirected = some (source, moved) ∧
        FileSystem.Writes (if source = stream then bytes else [])
          delivery.world.files handle moved after.world.files := by
  cases takes with
  | intoFile writes =>
      cases led
      rw [if_pos rfl]
      exact ⟨_, rfl, writes⟩
  | ontoTerminal apart grown =>
      simp only at led
      have other : source ≠ stream := by
        rintro rfl
        exact apart (by rw [led]; rfl)
      rw [if_neg other]
      exact ⟨handle, led, .nothing _ handle⟩

end Takes

/-- What a delivery is after an output was delivered. -/
structure Sends (output : Output) (delivery after : Delivery) : Prop where
  transcript :
    after.world.transcript.labelled =
      delivery.world.transcript.labelled ++
        delivery.world.visible
          (output.unredirected (delivery.redirected.map Prod.fst))
  files :
    delivery.redirected = none →
      after.world.files = delivery.world.files
  target :
    ∀ stream handle, delivery.redirected = some (stream, handle) →
      ∃ moved,
        FileSystem.Writes (output.of stream) delivery.world.files handle
          moved after.world.files

theorem sends_of_send
    {delivery after : Delivery} {output : Output}
    (sent : delivery.send output = (.ok (), after)) :
    Sends output delivery after := by
  rw [send, deliver] at sent
  split at sent
  · cases sent
  · rename_i between first
    have errors := takes_of_writeAll first
    have texts := takes_of_writeAll sent
    refine ⟨?_, ?_, ?_⟩
    · rw [texts.transcript, errors.transcript, errors.source,
        List.append_assoc, World.visible, World.visible, World.visible,
        errors.shows, ← List.filter_append, Output.unredirected]
    · intro free
      rcases errors.files free with ⟨still, same⟩
      rw [(texts.files still).2, same]
    · intro stream handle led
      rcases errors.target led with ⟨between, still, front⟩
      rcases texts.target still with ⟨moved, _, back⟩
      have writes := front.append back
      cases stream with
      | stderr => exact ⟨moved, by simpa [Output.of] using writes⟩
      | stdout => exact ⟨moved, by simpa [Output.of] using writes⟩

/-- The terminal takes everything that is written to standard error. -/
theorem exists_send_eq_ok
    {delivery : Delivery}
    (apart : delivery.redirected.map Prod.fst ≠ some .stderr)
    (bytes : Bytes) :
    ∃ after, delivery.send ⟨[], bytes⟩ = (.ok (), after) := by
  cases bytes with
  | nil => exact ⟨delivery, by simp [send, deliver, Outlet.writeAll]⟩
  | cons first rest =>
      have answered :
          (outlet .stderr).write delivery (first :: rest) =
            .ok
              (rest.length + 1,
                ⟨delivery.world.record .stderr (first :: rest),
                  delivery.redirected⟩) := by
        rcases delivery with ⟨world, _ | ⟨source, handle⟩⟩
        · rfl
        · have other : source ≠ .stderr := by simpa using apart
          simp only [outlet, if_neg other]
          rfl
      refine
        ⟨⟨delivery.world.record .stderr (first :: rest),
          delivery.redirected⟩, ?_⟩
      rw [send, deliver, Outlet.writeAll, answered]
      simp only [List.drop_length, Outlet.writeAll]

end Delivery

end InteractiveShell
