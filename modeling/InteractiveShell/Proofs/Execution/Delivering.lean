import InteractiveShell.Proofs.Execution.Sending
import InteractiveShell.Proofs.Outlet.Portion
import Mathlib.Data.List.Basic

/-!
# What two destinations take of an output

A delivery writes standard error to one destination and then standard output to another.  Each may
take its bytes in portions of any size and may fail at any of them.  To tell what they take, and in
which order, a record is kept of every portion under the name of the stream whose destination took
it.  Keeping it changes nothing.

`deliver_inOrder` says that what is delivered is the beginning of standard error followed by
standard output, and all of it if and only if the delivery ends well.  Once the destination of
standard error has failed, that of standard output is not written to, and an empty stream is
delivered without a write.  How much is delivered follows from the room that the destinations have.
The destinations of a command's own streams (`Delivery.send`) are two of this kind.
-/

namespace InteractiveShell

variable {σ : Type}

/-- The bytes of an output in the order of delivery, each with its stream. -/
def Output.labelled (output : Output) : List (Stream × UInt8) :=
  (output.stderr.map fun byte => (Stream.stderr, byte)) ++
    output.stdout.map fun byte => (Stream.stdout, byte)

theorem Output.of_labelled (output : Output) (stream : Stream) :
    (output.labelled.filter fun entry => entry.1 = stream).map Prod.snd =
      output.of stream := by
  cases stream <;>
    simp [labelled, Output.of, List.filter_map, Function.comp_def,
      List.filter_true, List.filter_false]

theorem Output.labelled_injective : Function.Injective Output.labelled := by
  intro left right same
  have streams (stream : Stream) : left.of stream = right.of stream := by
    rw [← left.of_labelled stream, same, right.of_labelled]
  cases left
  cases right
  have texts := streams .stdout
  have errors := streams .stderr
  simp only [Output.of] at texts errors
  rw [texts, errors]

/-! ### Records of deliveries -/

/-- An outlet that keeps a record of what it takes, under the name of a stream. -/
def Outlet.recordedAs (outlet : Outlet σ) (stream : Stream) :
    Outlet (σ × Transcript) where
  write state bytes :=
    (outlet.write state.1 bytes).map fun (taken, after) =>
      (taken, after, (stream, bytes.take taken) :: state.2)

/--
The bytes of an output that two destinations take, in the order in which they
are taken, each with the stream whose destination takes it.
-/
def delivered (stderr stdout : Outlet σ) (state : σ) (output : Output) :
    List (Stream × UInt8) :=
  (deliver (stderr.recordedAs .stderr) (stdout.recordedAs .stdout)
    (state, []) output).2.2.labelled

section Recorded

variable {outlet : Outlet σ} {state after : σ} {bytes taken rest : Bytes}

theorem Outlet.write_recordedAs_of_ok
    {count : Nat} (answer : outlet.write state bytes = .ok (count, after))
    (stream : Stream) (transcript : Transcript) :
    (outlet.recordedAs stream).write (state, transcript) bytes =
      .ok (count, after, (stream, bytes.take count) :: transcript) := by
  simp [recordedAs, answer, Except.map]

theorem Outlet.Takes.recordedAs
    (takes : outlet.Takes state taken rest after) (stream : Stream)
    (transcript : Transcript) :
    ∃ record : Transcript,
      (outlet.recordedAs stream).Takes (state, transcript) taken rest
          (after, record) ∧
        record.labelled =
          transcript.labelled ++ taken.map fun byte => (stream, byte) := by
  induction takes generalizing transcript with
  | nothing state rest =>
      exact ⟨transcript, .nothing _ rest, by simp⟩
  | @portion state between after bytes taken rest count nonempty answer
      remains later ih =>
      rcases ih ((stream, bytes.take (count + 1)) :: transcript) with
        ⟨record, continued, labelled⟩
      have kept := Outlet.write_recordedAs_of_ok answer stream transcript
      refine ⟨record, .portion nonempty kept remains continued, ?_⟩
      rw [labelled, Transcript.labelled_cons, List.append_assoc,
        List.map_append]

theorem Outlet.Refuses.recordedAs
    {cause : SystemError}
    (refuses : outlet.Refuses bytes state cause after) (stream : Stream)
    (transcript : Transcript) :
    ∃ record : Transcript,
      (outlet.recordedAs stream).Refuses bytes (state, transcript) cause
          (after, record) ∧
        record.labelled = transcript.labelled := by
  cases refuses with
  | fails answer =>
      exact
        ⟨transcript,
          .fails (by simp [Outlet.recordedAs, answer, Except.map]), rfl⟩
  | takesNone answer =>
      have kept := Outlet.write_recordedAs_of_ok answer stream transcript
      refine ⟨_, .takesNone kept, ?_⟩
      rw [Transcript.labelled_cons, List.take_zero, List.map_nil,
        List.append_nil]

theorem Outlet.Written.recordedAs
    {result : Except SystemError Unit × σ}
    (written : outlet.Written state bytes taken result) (stream : Stream)
    (transcript : Transcript) :
    ∃ record : Transcript,
      (outlet.recordedAs stream).Written (state, transcript) bytes taken
          (result.1, result.2, record) ∧
        record.labelled =
          transcript.labelled ++ taken.map fun byte => (stream, byte) := by
  cases written with
  | whole takes =>
      rcases takes.recordedAs stream transcript with ⟨record, kept, labelled⟩
      exact ⟨record, .whole kept, labelled⟩
  | cut pieces left takes refuses =>
      rcases takes.recordedAs stream transcript with ⟨between, kept, labelled⟩
      rcases refuses.recordedAs stream between with ⟨record, refused, same⟩
      exact ⟨record, .cut pieces left kept refused, same.trans labelled⟩

end Recorded

/-! ### The course of a delivery -/

/--
What comes of a delivery: the part of the output that is delivered and the
result.  Standard output has its turn only if all of standard error was taken.
-/
inductive Delivers (stderr stdout : Outlet σ) (state : σ)
    (output : Output) : Output → Except SystemError Unit × σ → Prop where
  | stopped {taken : Bytes} {cause : SystemError} {after : σ}
      (errors :
        stderr.Written state output.stderr taken (.error cause, after)) :
      Delivers stderr stdout state output ⟨[], taken⟩ (.error cause, after)
  | passed {taken : Bytes} {between : σ}
      {result : Except SystemError Unit × σ}
      (errors :
        stderr.Written state output.stderr output.stderr (.ok (), between))
      (texts : stdout.Written between output.stdout taken result) :
      Delivers stderr stdout state output ⟨taken, output.stderr⟩ result

section Delivers

variable {stderr stdout : Outlet σ} {state : σ} {output part : Output}
variable {result : Except SystemError Unit × σ}

theorem Delivers.deliver_eq
    (delivers : Delivers stderr stdout state output part result) :
    deliver stderr stdout state output = result := by
  cases delivers with
  | stopped errors => rw [deliver, errors.writeAll_eq]
  | passed errors texts =>
      rw [deliver, errors.writeAll_eq]
      exact texts.writeAll_eq

theorem exists_delivers
    (stderr stdout : Outlet σ) (state : σ) (output : Output) :
    ∃ part,
      Delivers stderr stdout state output part
        (deliver stderr stdout state output) := by
  rcases stderr.exists_written state output.stderr with ⟨taken, errors⟩
  rcases answered : stderr.writeAll state output.stderr with
    ⟨cause | ⟨⟩, between⟩
  · rw [answered] at errors
    have stopped : Delivers stderr stdout state output _ _ := .stopped errors
    rw [stopped.deliver_eq]
    exact ⟨_, stopped⟩
  · rw [answered] at errors
    cases errors.eq_ok_iff.mp rfl
    rcases stdout.exists_written between output.stdout with ⟨last, texts⟩
    have passed : Delivers stderr stdout state output _ _ :=
      .passed errors texts
    rw [passed.deliver_eq]
    exact ⟨_, passed⟩

theorem Delivers.recorded
    (delivers : Delivers stderr stdout state output part result)
    (transcript : Transcript) :
    ∃ record : Transcript,
      Delivers (stderr.recordedAs .stderr) (stdout.recordedAs .stdout)
          (state, transcript) output part (result.1, result.2, record) ∧
        record.labelled = transcript.labelled ++ part.labelled := by
  cases delivers with
  | stopped errors =>
      rcases errors.recordedAs .stderr transcript with
        ⟨record, kept, labelled⟩
      refine ⟨record, .stopped kept, ?_⟩
      rw [labelled, Output.labelled, List.map_nil, List.append_nil]
  | passed errors texts =>
      rcases errors.recordedAs .stderr transcript with
        ⟨between, kept, front⟩
      rcases texts.recordedAs .stdout between with ⟨record, last, back⟩
      refine ⟨record, .passed kept last, ?_⟩
      rw [back, front, List.append_assoc, Output.labelled]

theorem Delivers.delivered_eq
    (delivers : Delivers stderr stdout state output part result) :
    delivered stderr stdout state output = part.labelled := by
  rcases delivers.recorded [] with ⟨record, kept, labelled⟩
  rw [delivered, kept.deliver_eq]
  exact labelled

theorem Delivers.labelled_prefix
    (delivers : Delivers stderr stdout state output part result) :
    part.labelled <+: output.labelled := by
  cases delivers with
  | stopped errors =>
      rw [Output.labelled, List.map_nil, List.append_nil]
      exact
        (errors.taken_prefix.map _).trans (List.prefix_append _ _)
  | passed errors texts =>
      exact
        (List.prefix_append_right_inj _).mpr (texts.taken_prefix.map _)

/-- A delivery ends well if and only if all of the output is delivered. -/
theorem Delivers.eq_ok_iff
    (delivers : Delivers stderr stdout state output part result) :
    result.1 = .ok () ↔ part = output := by
  cases delivers with
  | stopped errors =>
      refine iff_of_false (fun ended => nomatch ended) ?_
      intro all
      have whole := congrArg Output.stderr all
      exact nomatch errors.eq_ok_iff.mpr whole
  | passed errors texts =>
      rw [texts.eq_ok_iff]
      constructor
      · intro whole
        rw [whole]
      · intro all
        exact congrArg Output.stdout all

/-- If the destination of standard error fails, the other one has no part in the delivery. -/
theorem deliver_of_failed
    (failed : (stderr.writeAll state output.stderr).1 ≠ .ok ()) :
    deliver stderr stdout state output =
      stderr.writeAll state output.stderr := by
  rw [deliver]
  rcases answered : stderr.writeAll state output.stderr with
    ⟨cause | ⟨⟩, after⟩
  · rfl
  · rw [answered] at failed
    exact absurd rfl failed

theorem Delivers.eq_stderr_of_failed
    (delivers : Delivers stderr stdout state output part result)
    (failed : (stderr.writeAll state output.stderr).1 ≠ .ok ()) :
    ∀ entry ∈ part.labelled, entry.1 = .stderr := by
  cases delivers with
  | stopped errors => simp [Output.labelled]
  | passed errors texts =>
      rw [errors.writeAll_eq] at failed
      exact absurd rfl failed

theorem deliver_of_stderr_eq_nil (silent : output.stderr = []) :
    deliver stderr stdout state output =
      stdout.writeAll state output.stdout := by
  rw [deliver, silent, Outlet.writeAll_nil]

theorem deliver_of_stdout_eq_nil (silent : output.stdout = []) :
    deliver stderr stdout state output =
      stderr.writeAll state output.stderr := by
  rw [deliver, silent]
  rcases stderr.writeAll state output.stderr with ⟨cause | ⟨⟩, after⟩
  · rfl
  · exact stdout.writeAll_nil after

/--
The part of an output for which there is room.  Standard output comes behind
the whole of standard error or not at all.
-/
def Output.upTo (output : Output) (errorRoom textRoom : Option Nat) :
    Output :=
  if output.stderr.upTo errorRoom = output.stderr then
    ⟨output.stdout.upTo textRoom, output.stderr⟩
  else
    ⟨[], output.stderr.upTo errorRoom⟩

theorem Delivers.eq_upTo
    {errorRoom textRoom : σ → Option Nat}
    (errorsFit : stderr.HasRoom errorRoom)
    (textsFit : stdout.HasRoom textRoom)
    (apart : ∀ left, stderr.Keeps fun state => textRoom state = left)
    (delivers : Delivers stderr stdout state output part result) :
    part = output.upTo (errorRoom state) (textRoom state) := by
  cases delivers with
  | @stopped taken cause after errors =>
      have fitting := errorsFit.eq_upTo_of_written errors
      have short : taken ≠ output.stderr := fun all =>
        nomatch errors.eq_ok_iff.mpr all
      rw [Output.upTo, ← fitting, if_neg short]
  | passed errors texts =>
      have fitting := errorsFit.eq_upTo_of_written errors
      -- Standard error has been written by now, and the other destination has its room still.
      have untouched := (apart (textRoom state)).writeAll rfl output.stderr
      rw [errors.writeAll_eq] at untouched
      have shown := textsFit.eq_upTo_of_written texts
      rw [untouched] at shown
      rw [Output.upTo, if_pos fitting.symm, shown]

end Delivers

/-- What two destinations take of an output, whatever they do. -/
structure DeliversInOrder (stderr stdout : Outlet σ) (state : σ)
    (output : Output) : Prop where
  /-- The record changes neither the result nor the state. -/
  recorded :
    let observed :=
      deliver (stderr.recordedAs .stderr) (stdout.recordedAs .stdout)
        (state, []) output
    (observed.1, observed.2.1) = deliver stderr stdout state output
  ordered : delivered stderr stdout state output <+: output.labelled
  complete :
    (deliver stderr stdout state output).1 = .ok () ↔
      delivered stderr stdout state output = output.labelled
  /-- If the destination of standard error fails, then nothing depends on the other one. -/
  errorsFirst :
    (stderr.writeAll state output.stderr).1 ≠ .ok () →
      deliver stderr stdout state output =
          stderr.writeAll state output.stderr ∧
        ∀ entry ∈ delivered stderr stdout state output, entry.1 = .stderr
  withoutErrors :
    output.stderr = [] →
      deliver stderr stdout state output =
        stdout.writeAll state output.stdout
  withoutText :
    output.stdout = [] →
      deliver stderr stdout state output =
        stderr.writeAll state output.stderr
  /-- Destinations that do not share their room take as much as they have room for. -/
  upToRoom :
    ∀ errorRoom textRoom : σ → Option Nat,
      stderr.HasRoom errorRoom →
        stdout.HasRoom textRoom →
          (∀ left, stderr.Keeps fun state => textRoom state = left) →
            delivered stderr stdout state output =
              (output.upTo (errorRoom state) (textRoom state)).labelled

/--
What two destinations take of an output is the beginning of its standard error
followed by its standard output, and all of it if the delivery ends well.
-/
theorem deliver_inOrder
    (stderr stdout : Outlet σ) (state : σ) (output : Output) :
    DeliversInOrder stderr stdout state output := by
  rcases exists_delivers stderr stdout state output with ⟨part, delivers⟩
  have taken := delivers.delivered_eq
  refine
    ⟨?_, ?_, ?_, ?_, deliver_of_stderr_eq_nil, deliver_of_stdout_eq_nil, ?_⟩
  · rcases delivers.recorded [] with ⟨record, kept, _⟩
    rw [kept.deliver_eq]
  · rw [taken]
    exact delivers.labelled_prefix
  · rw [taken, delivers.eq_ok_iff, Output.labelled_injective.eq_iff]
  · intro failed
    rw [taken]
    exact ⟨deliver_of_failed failed, delivers.eq_stderr_of_failed failed⟩
  · intro errorRoom textRoom errorsFit textsFit apart
    rw [taken, delivers.eq_upTo errorsFit textsFit apart]

/--
One of two destinations has room for one byte of a character that takes two.
If that is the room for standard error, the other one gets nothing.  A
destination without room does no harm to an empty stream.
-/
theorem deliver_inOrder_scarce :
    let stderr : Outlet (Sink × Sink) :=
      Sink.outlet.bytewise.onPart Prod.fst fun both sink => (sink, both.2)
    let stdout : Outlet (Sink × Sink) :=
      Sink.outlet.onPart Prod.snd fun both sink => (both.1, sink)
    let state (errorRoom textRoom : Option Nat) : Sink × Sink :=
      (.withRoom errorRoom, .withRoom textRoom)
    ((stderr.HasRoom fun both => both.1.room) ∧
        (stdout.HasRoom fun both => both.2.room) ∧
          ∀ left, stderr.Keeps fun both => both.2.room = left) ∧
      delivered stderr stdout (state (some 2) (some 1))
          ⟨[0xc3, 0xa9], [0x6e, 0x6f]⟩ =
        [(.stderr, 0x6e), (.stderr, 0x6f), (.stdout, 0xc3)] ∧
      delivered stderr stdout (state (some 1) none)
          ⟨[0x6e, 0x6f], [0xc3, 0xa9]⟩ =
        [(.stderr, 0xc3)] ∧
      (deliver stderr stdout (state (some 2) (some 0))
          ⟨[], [0x6e, 0x6f]⟩).1 = .ok () := by
  intro stderr stdout state
  have sink : Sink.outlet.HasRoom Sink.room := Sink.metered_outlet.hasRoom
  have errorsFit : stderr.HasRoom fun both => both.1.room :=
    sink.bytewise.onPart fun _ _ => rfl
  have textsFit : stdout.HasRoom fun both => both.2.room :=
    sink.onPart fun _ _ => rfl
  have apart : ∀ left, stderr.Keeps fun both => both.2.room = left :=
    Outlet.keeps_onPart fun _ _ => rfl
  have inOrder (errorRoom textRoom : Option Nat) (output : Output) :
      DeliversInOrder stderr stdout (state errorRoom textRoom) output :=
    deliver_inOrder stderr stdout _ output
  refine ⟨⟨errorsFit, textsFit, apart⟩, ?_, ?_, ?_⟩
  · exact (inOrder _ _ _).upToRoom _ _ errorsFit textsFit apart
  · exact (inOrder _ _ _).upToRoom _ _ errorsFit textsFit apart
  · apply (inOrder _ _ _).complete.mpr
    exact (inOrder _ _ _).upToRoom _ _ errorsFit textsFit apart

end InteractiveShell
