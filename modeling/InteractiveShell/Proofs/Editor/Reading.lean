import InteractiveShell.Proofs.Editor.Handled
import InteractiveShell.Proofs.Text.Unfinished

/-!
# Streams in pieces

A stream may come in pieces of any length, and a read may be interrupted between any two of them,
also in the middle of a character.  The cycles over the stream end as they do over its bytes in one
piece, with the same outputs, and leave the same bytes unread.

A failure of another kind ends the cycle that reaches it.  That cycle has shown what the characters
in front of the failure show, and nothing for the sequence that the failure cuts off.  The cycles
before it end as if the failure were not there.
-/

namespace InteractiveShell

/-! ### Interruptions -/

/-- A piece of a stream. -/
inductive Piece where
  | bytes (run : Bytes)
  /-- A read that is interrupted, between the bytes in front of it and those behind it. -/
  | interruption

namespace Piece

/-- What the reads of a stream in pieces meet. -/
def arrivals (pieces : List Piece) : List Arrival :=
  pieces.flatMap fun
    | .bytes run => run.map .byte
    | .interruption => [.interruption]

/-- The bytes of all pieces. -/
def contents (pieces : List Piece) : Bytes :=
  pieces.flatMap fun
    | .bytes run => run
    | .interruption => []

theorem failure_notMem_arrivals (pieces : List Piece) (cause : SystemError) :
    .failure cause ∉ arrivals pieces := by
  rw [arrivals, List.mem_flatMap]
  rintro ⟨piece, _, member⟩
  cases piece <;> simp at member

end Piece

namespace Arrival

/-- The arrivals other than interruptions. -/
def uninterrupted (arrivals : List Arrival) : List Arrival :=
  arrivals.filter fun arrival => arrival ≠ .interruption

@[simp]
theorem bytes_uninterrupted (arrivals : List Arrival) :
    bytes (uninterrupted arrivals) = bytes arrivals := by
  induction arrivals with
  | nil => rfl
  | cons arrival rest ih =>
      cases arrival with
      | byte value => exact congrArg (value :: ·) ih
      | interruption | failure => exact ih

theorem uninterrupted_arrivals (pieces : List Piece) :
    uninterrupted (Piece.arrivals pieces) =
      Piece.arrivals [.bytes (Piece.contents pieces)] := by
  induction pieces with
  | nil => rfl
  | cons piece rest ih =>
      rw [Piece.arrivals, List.flatMap_cons, uninterrupted,
        List.filter_append]
      show _ ++ uninterrupted (Piece.arrivals rest) = _
      rw [ih]
      cases piece with
      | bytes run =>
          simp [Piece.arrivals, Piece.contents, List.filter_map,
            Function.comp_def]
      | interruption => rfl

end Arrival

section Reading

variable {σ : Type} {completer : Completer} {outlet : Outlet σ}

/-- The same end of a cycle with the interruptions dropped from what is left. -/
def CycleEnd.uninterrupted (cycle : CycleEnd σ) : CycleEnd σ :=
  { cycle with unread := Arrival.uninterrupted cycle.unread }

/-- What can be seen of the end of a cycle: how it ended, the bytes that it left and its output. -/
def CycleEnd.visible (cycle : CycleEnd σ) :
    Except SystemError Outcome × Bytes × σ :=
  (cycle.result, Arrival.bytes cycle.unread, cycle.output)

theorem runEdit_uninterrupted
    (decoder : Utf8.Decoder) (edit : Edit) (output : σ)
    (arrivals : List Arrival) :
    runEdit completer outlet decoder edit output
        (Arrival.uninterrupted arrivals) =
      (runEdit completer outlet decoder edit output
        arrivals).uninterrupted := by
  induction arrivals generalizing decoder edit output with
  | nil =>
      show runEdit completer outlet decoder edit output [] = _
      rw [runEdit]
      split <;> rfl
  | cons arrival rest ih =>
      cases arrival with
      | interruption => exact ih decoder edit output
      | failure cause => rfl
      | byte value =>
          show
            runEdit completer outlet decoder edit output
                (.byte value :: Arrival.uninterrupted rest) =
              _
          rw [runEdit, runEdit]
          dsimp only
          split
          · rfl
          · exact ih _ _ _

/-- The seed of the cycle that follows the end of another one, if any does. -/
def CycleEnd.nextSeed? (cycle : CycleEnd σ) : Option Text :=
  cycle.result.toOption.bind Outcome.nextSeed?

theorem runCycles_succ
    (count : Nat) (seed : Text) (output : σ) (arrivals : List Arrival) :
    runCycles completer outlet output (count + 1) seed arrivals =
      runCycle completer outlet seed output arrivals ::
        match (runCycle completer outlet seed output arrivals).nextSeed? with
        | none => []
        | some next =>
            runCycles completer outlet output count next
              (runCycle completer outlet seed output arrivals).unread := by
  rw [runCycles, CycleEnd.nextSeed?]
  cases (runCycle completer outlet seed output arrivals).result with
  | error cause => rfl
  | ok outcome => cases outcome <;> rfl

/-- Cycles over a stream end in the same way without its interruptions. -/
theorem runCycles_uninterrupted
    (count : Nat) (seed : Text) (output : σ) (arrivals : List Arrival) :
    runCycles completer outlet output count seed
        (Arrival.uninterrupted arrivals) =
      (runCycles completer outlet output count seed arrivals).map
        CycleEnd.uninterrupted := by
  induction count generalizing seed arrivals with
  | zero => rfl
  | succ count ih =>
      have first :
          runCycle completer outlet seed output
              (Arrival.uninterrupted arrivals) =
            (runCycle completer outlet seed output arrivals).uninterrupted :=
        runEdit_uninterrupted _ _ _ _
      rw [runCycles_succ, runCycles_succ, first, List.map_cons]
      congr 1
      show
        (match (runCycle completer outlet seed output arrivals).nextSeed? with
          | none => []
          | some next => _) = _
      cases (runCycle completer outlet seed output arrivals).nextSeed? with
      | none => rfl
      | some next => exact ih next _

/-! ### Failures -/

/-- An edit goes on behind arrivals whose complete keys do not end it. -/
theorem runEdit_append_of_editing
    {front : List Arrival} (whole : ∀ cause, .failure cause ∉ front)
    {decoder : Utf8.Decoder} {edit last : Edit} {output after : σ}
    (pressed :
      edit.pressAll completer outlet output
          (decoder.feedAll (Arrival.bytes front)).2 =
        .editing last after)
    (back : List Arrival) :
    runEdit completer outlet decoder edit output (front ++ back) =
      runEdit completer outlet (decoder.feedAll (Arrival.bytes front)).1
        last after back := by
  induction front generalizing decoder edit output with
  | nil =>
      cases pressed
      rfl
  | cons arrival rest ih =>
      have others : ∀ cause, Arrival.failure cause ∉ rest :=
        fun cause member => whole cause (List.mem_cons_of_mem _ member)
      cases arrival with
      | failure cause => exact absurd List.mem_cons_self (whole cause)
      | interruption => exact ih others pressed
      | byte value =>
          rw [Arrival.bytes_byte, Utf8.Decoder.feedAll_cons] at pressed ⊢
          rcases Edit.exists_editing_of_append pressed with
            ⟨middle, between, begun, later⟩
          rw [List.cons_append, runEdit]
          simp only [begun]
          exact ih others later

/-- An edit that a complete key stops leaves what stands behind that key. -/
theorem exists_runEdit_append_of_stopped
    {front : List Arrival} (whole : ∀ cause, .failure cause ∉ front)
    {decoder : Utf8.Decoder} {edit : Edit} {output after : σ}
    {result : Except SystemError Outcome}
    (pressed :
      edit.pressAll completer outlet output
          (decoder.feedAll (Arrival.bytes front)).2 =
        .stopped result after) :
    ∃ rest, rest <:+ front ∧
      ∀ back,
        runEdit completer outlet decoder edit output (front ++ back) =
          ⟨result, rest ++ back, after⟩ := by
  induction front generalizing decoder edit output with
  | nil => cases pressed
  | cons arrival rest ih =>
      have others : ∀ cause, Arrival.failure cause ∉ rest :=
        fun cause member => whole cause (List.mem_cons_of_mem _ member)
      cases arrival with
      | failure cause => exact absurd List.mem_cons_self (whole cause)
      | interruption =>
          rcases ih others pressed with ⟨left, behind, ran⟩
          exact ⟨left, behind.trans (List.suffix_cons _ _), ran⟩
      | byte value =>
          rw [Arrival.bytes_byte, Utf8.Decoder.feedAll_cons] at pressed
          cases begun :
              edit.pressAll completer outlet output
                (decoder.feed value).2 with
          | stopped early state =>
              rw [Edit.pressAll_append_of_stopped begun] at pressed
              cases pressed
              refine ⟨rest, List.suffix_cons _ _, ?_⟩
              intro back
              rw [List.cons_append, runEdit]
              simp only [begun]
          | editing middle between =>
              rw [Edit.pressAll_append_of_editing begun] at pressed
              rcases ih others pressed with ⟨left, behind, ran⟩
              refine ⟨left, behind.trans (List.suffix_cons _ _), ?_⟩
              intro back
              rw [List.cons_append, runEdit]
              simp only [begun]
              exact ran back

/-- The same end of a cycle with more behind what is left. -/
def CycleEnd.before (cycle : CycleEnd σ) (behind : List Arrival) :
    CycleEnd σ :=
  { cycle with unread := cycle.unread ++ behind }

/-- Pressing the keys that some arrivals complete. -/
def pressCompleted (completer : Completer) (outlet : Outlet σ)
    (output : σ) (seed : Text) (arrivals : List Arrival) : Progress σ :=
  (Edit.start seed).pressAll completer outlet output
    (Utf8.completed (Arrival.bytes arrivals))

/--
How cycles end over arrivals with a failure behind them: those that a key
among the arrivals stops end as they do over the arrivals alone.  The first
one that no such key stops ends with the failure, and has shown what the keys
among the arrivals show.
-/
inductive MeetsFailure (completer : Completer) (outlet : Outlet σ)
    (output : σ) (cause : SystemError) (back : List Arrival) :
    Nat → Text → List Arrival → List (CycleEnd σ) → Prop where
  | nothing (seed : Text) (front : List Arrival) :
      MeetsFailure completer outlet output cause back 0 seed front []
  | failed {count : Nat} {seed : Text} {front : List Arrival} {edit : Edit}
      {after : σ}
      (goesOn :
        pressCompleted completer outlet output seed front =
          .editing edit after) :
      MeetsFailure completer outlet output cause back (count + 1) seed front
        [⟨.error cause, back, after⟩]
  | last {count : Nat} {seed : Text} {front : List Arrival}
      {result : Except SystemError Outcome} {after : σ}
      (stops :
        pressCompleted completer outlet output seed front =
          .stopped result after)
      (final :
        (runCycle completer outlet seed output front).nextSeed? = none) :
      MeetsFailure completer outlet output cause back (count + 1) seed front
        [(runCycle completer outlet seed output front).before
          (.failure cause :: back)]
  | next {count : Nat} {seed following : Text} {front : List Arrival}
      {result : Except SystemError Outcome} {after : σ}
      {later : List (CycleEnd σ)}
      (stops :
        pressCompleted completer outlet output seed front =
          .stopped result after)
      (follows :
        (runCycle completer outlet seed output front).nextSeed? =
          some following)
      (others :
        MeetsFailure completer outlet output cause back count following
          (runCycle completer outlet seed output front).unread later) :
      MeetsFailure completer outlet output cause back (count + 1) seed front
        ((runCycle completer outlet seed output front).before
            (.failure cause :: back) ::
          later)

theorem meetsFailure_runCycles
    {front : List Arrival} (whole : ∀ cause, .failure cause ∉ front)
    (output : σ) (cause : SystemError) (back : List Arrival)
    (count : Nat) (seed : Text) :
    MeetsFailure completer outlet output cause back count seed front
      (runCycles completer outlet output count seed
        (front ++ .failure cause :: back)) := by
  induction count generalizing seed front with
  | zero => exact .nothing seed front
  | succ count ih =>
      rw [runCycles_succ]
      cases pressed :
          pressCompleted completer outlet output seed front with
      | editing last after =>
          have ran :
              runCycle completer outlet seed output
                  (front ++ .failure cause :: back) =
                ⟨.error cause, back, after⟩ := by
            rw [runCycle, runEdit_append_of_editing whole pressed, runEdit]
          rw [ran]
          exact .failed pressed
      | stopped result after =>
          rcases exists_runEdit_append_of_stopped whole pressed with
            ⟨rest, behind, ran⟩
          have alone :
              runCycle completer outlet seed output front =
                ⟨result, rest, after⟩ := by
            rw [runCycle]
            simpa using ran []
          have same :
              runCycle completer outlet seed output
                  (front ++ .failure cause :: back) =
                (runCycle completer outlet seed output front).before
                  (.failure cause :: back) := by
            rw [alone]
            exact ran _
          rw [same]
          cases follows :
              (runCycle completer outlet seed output front).nextSeed? with
          | none =>
              have final :
                  ((runCycle completer outlet seed output front).before
                      (.failure cause :: back)).nextSeed? =
                    none :=
                follows
              rw [final]
              exact .last pressed follows
          | some next =>
              have goesOn :
                  ((runCycle completer outlet seed output front).before
                      (.failure cause :: back)).nextSeed? =
                    some next :=
                follows
              rw [goesOn]
              refine .next pressed follows (ih ?_ next)
              intro other member
              rw [alone] at member
              exact whole other (behind.subset member)

/--
Cycles depend on the bytes of a stream alone.  Neither its pieces nor the
interruptions between them make a difference, and a failure takes effect where
it occurs: no key in front of it is lost, and the bytes that it cuts off from
their character show nothing.
-/
theorem runCycles_of_pieces
    (completer : Completer) (outlet : Outlet σ) (output : σ) (count : Nat)
    (seed : Text) (pieces : List Piece) :
    (runCycles completer outlet output count seed
          (Piece.arrivals pieces)).map CycleEnd.visible =
        (runCycles completer outlet output count seed
          (Piece.arrivals [.bytes (Piece.contents pieces)])).map
            CycleEnd.visible ∧
      (∀ cause back,
        MeetsFailure completer outlet output cause back count seed
          (Piece.arrivals pieces)
          (runCycles completer outlet output count seed
            (Piece.arrivals pieces ++ .failure cause :: back))) ∧
      ∀ bytes, ∃ left, Utf8.Completes bytes (Utf8.completed bytes) left := by
  refine ⟨?_, ?_, Utf8.exists_completes⟩
  · rw [← Arrival.uninterrupted_arrivals, runCycles_uninterrupted,
      List.map_map]
    apply List.map_congr_left
    intro cycle _
    simp [CycleEnd.visible, CycleEnd.uninterrupted]
  · intro cause back
    exact
      meetsFailure_runCycles (Piece.failure_notMem_arrivals pieces) output
        cause back count seed

/-- A failure and an interruption in the middle of a character, in the second of two cycles. -/
example :
    let arrivals : List Arrival :=
      Piece.arrivals
          [.bytes [0x0d, 0x61, 0xe2], .interruption, .bytes [0x82]] ++
        [.failure .timedOut, .byte 0xac]
    (runCycles (fun _ => []) Sink.outlet (.withRoom none) 3 []
        arrivals).map
          (fun cycle =>
            (cycle.result, Arrival.bytes cycle.unread,
              cycle.output.bytes)) =
      [(.ok (.submitted []), [0x61, 0xe2, 0x82, 0xac], [0x0d, 0x0a]),
        (.error .timedOut, [0xac], [0x61])] := by
  decide +kernel

end Reading

end InteractiveShell
