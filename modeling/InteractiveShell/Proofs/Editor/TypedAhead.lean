import InteractiveShell.Proofs.Editor.Handled
import InteractiveShell.Proofs.Outlet.Steady

/-!
# Keys that are typed ahead

Cycles that run one after the other over the same stream start with any buffer, any completer and
any outlet.  As long as each of them ends well, the keys that they handle are those of the stream in
their order, and what the last one leaves unread is what stands behind them.  A cycle that a key has
ended does not depend on anything behind that key.
-/

namespace InteractiveShell

/-- What a cycle is started with, apart from the stream. -/
structure CycleStart (σ : Type) where
  completer : Completer
  outlet : Outlet σ
  seed : Text
  output : σ

namespace CycleStart

variable {σ : Type}

/-- Runs a cycle over a stream. -/
def run (start : CycleStart σ) (arrivals : List Arrival) : CycleEnd σ :=
  runCycle start.completer start.outlet start.seed start.output arrivals

/-- Pressing some keys one after the other ends a cycle with the last of them. -/
def EndsOnKey (start : CycleStart σ) (keys : Text) (cycle : CycleEnd σ) :
    Prop :=
  (Edit.start start.seed).EndsAtLast start.completer start.outlet
    start.output keys cycle.result cycle.output

/-- Pressing some keys one after the other ends no cycle; the end of the input behind them does. -/
def EndsWithInput (start : CycleStart σ) (keys : Text)
    (cycle : CycleEnd σ) : Prop :=
  (Edit.start start.seed).EndsWithInput start.completer start.outlet
    start.output keys cycle.result cycle.output

/--
A cycle over a stream handles some keys: they stand at the front of the stream,
the cycle leaves unread exactly what stands behind them, and pressing them one
after the other makes the cycle end as it does.
-/
structure Handles (start : CycleStart σ) (arrivals : List Arrival)
    (keys : Text) : Prop where
  reads :
    Utf8.Reads (Arrival.bytes arrivals) keys
      (Arrival.bytes (start.run arrivals).unread)
  ends :
    (start.EndsOnKey keys (start.run arrivals) ∧
        ∃ read,
          arrivals = read ++ (start.run arrivals).unread ∧
            ∀ other,
              start.run (read ++ other) =
                { start.run arrivals with unread := other }) ∨
      (start.EndsWithInput keys (start.run arrivals) ∧
        (start.run arrivals).unread = [])

/-- A cycle that ends well handles keys. -/
theorem exists_handles
    {start : CycleStart σ} {arrivals : List Arrival} {outcome : Outcome}
    (well : (start.run arrivals).result = .ok outcome) :
    ∃ keys, start.Handles arrivals keys := by
  rcases runEdit_ends rfl well with
    ⟨read, split, idle, ends, others⟩ | ⟨nothing, ends⟩
  · refine
      ⟨(Utf8.Decoder.idle.feedAll (Arrival.bytes read)).2, ?_,
        .inl ⟨ends, read, split, others⟩⟩
    have reads :=
      Utf8.reads_of_feedAll_idle idle
        (Arrival.bytes (start.run arrivals).unread)
    rw [← Arrival.bytes_append, run, runCycle, ← split] at reads
    exact reads
  · refine
      ⟨Utf8.decode (Arrival.bytes arrivals), ?_, .inr ⟨ends, nothing⟩⟩
    have reads := Utf8.reads_decode (Arrival.bytes arrivals)
    have unread : (start.run arrivals).unread = [] := nothing
    rw [unread]
    exact reads

end CycleStart

/-! ### Cycles in turn -/

section InTurn

variable {σ : Type}

/-- Runs cycles in turn over one stream, each over what the one before it left unread. -/
def runInTurn : List (CycleStart σ) → List Arrival → List (CycleEnd σ)
  | [], _ => []
  | start :: later, arrivals =>
      start.run arrivals :: runInTurn later (start.run arrivals).unread

/-- What cycles in turn leave unread. -/
def unreadInTurn : List (CycleStart σ) → List Arrival → List Arrival
  | [], arrivals => arrivals
  | start :: later, arrivals =>
      unreadInTurn later (start.run arrivals).unread

/-- Cycles in turn handle keys, each its own. -/
inductive HandleInTurn :
    List (CycleStart σ) → List Arrival → List Text → Prop where
  | nil (arrivals : List Arrival) : HandleInTurn [] arrivals []
  | cons {start : CycleStart σ} {later : List (CycleStart σ)}
      {arrivals : List Arrival} {keys : Text} {laterKeys : List Text}
      (first : start.Handles arrivals keys)
      (others :
        HandleInTurn later (start.run arrivals).unread laterKeys) :
      HandleInTurn (start :: later) arrivals (keys :: laterKeys)

theorem HandleInTurn.reads
    {starts : List (CycleStart σ)} {arrivals : List Arrival}
    {handled : List Text}
    (inTurn : HandleInTurn starts arrivals handled) :
    Utf8.Reads (Arrival.bytes arrivals) handled.flatten
      (Arrival.bytes (unreadInTurn starts arrivals)) := by
  induction inTurn with
  | nil arrivals => exact .nil (Arrival.bytes arrivals)
  | cons first _ ih =>
      rw [List.flatten_cons]
      exact first.reads.append ih

theorem exists_handleInTurn
    (starts : List (CycleStart σ)) (arrivals : List Arrival)
    (well :
      ∀ cycle ∈ runInTurn starts arrivals,
        ∃ outcome, cycle.result = .ok outcome) :
    ∃ handled, HandleInTurn starts arrivals handled := by
  induction starts generalizing arrivals with
  | nil => exact ⟨[], .nil arrivals⟩
  | cons start later ih =>
      rcases well (start.run arrivals) (by simp [runInTurn]) with
        ⟨outcome, ended⟩
      rcases CycleStart.exists_handles ended with ⟨keys, first⟩
      rcases
          ih (start.run arrivals).unread
            fun cycle member => well cycle (by simp [runInTurn, member]) with
        ⟨laterKeys, others⟩
      exact ⟨keys :: laterKeys, .cons first others⟩

/-- Cycles in turn with steady outlets end well over a stream without failures. -/
theorem runInTurn_ok
    {starts : List (CycleStart σ)} {arrivals : List Arrival}
    {ready : σ → Prop}
    (steady :
      ∀ start ∈ starts, start.outlet.Steady ready ∧ ready start.output)
    (unfailing : ∀ cause, .failure cause ∉ arrivals) :
    ∀ cycle ∈ runInTurn starts arrivals,
      ∃ outcome, cycle.result = .ok outcome := by
  induction starts generalizing arrivals with
  | nil => simp [runInTurn]
  | cons start later ih =>
      rcases steady start List.mem_cons_self with ⟨takes, begins⟩
      intro cycle member
      rw [runInTurn] at member
      rcases List.mem_cons.mp member with rfl | others
      · exact
          takes.runEdit_ok begins start.completer .idle
            (.start start.seed) unfailing
      · have unread :=
          Arrival.unfailing_unread unfailing start.completer start.outlet
            start.seed start.output
        exact
          ih (fun next among => steady next (List.mem_cons_of_mem _ among))
            unread cycle others

/--
Cycles in turn that all end well share the keys of their stream out among
themselves: each handles its own, together they handle the first keys of the
stream, and what they leave unread is what stands behind these.
-/
theorem exists_handled_and_reads
    (starts : List (CycleStart σ)) (arrivals : List Arrival)
    (well :
      ∀ cycle ∈ runInTurn starts arrivals,
        ∃ outcome, cycle.result = .ok outcome) :
    ∃ handled : List Text,
      HandleInTurn starts arrivals handled ∧
        Utf8.Reads (Arrival.bytes arrivals) handled.flatten
          (Arrival.bytes (unreadInTurn starts arrivals)) ∧
        Utf8.decode (Arrival.bytes arrivals) =
          handled.flatten ++
            Utf8.decode (Arrival.bytes (unreadInTurn starts arrivals)) := by
  rcases exists_handleInTurn starts arrivals well with ⟨handled, inTurn⟩
  exact
    ⟨handled, inTurn, inTurn.reads,
      Utf8.decode_eq_append_of_reads inTurn.reads⟩

/-- Two cycles over a stream with an unfinished sequence directly in front of a line's end. -/
theorem exists_handled_and_reads_unfinished :
    let start : CycleStart Sink :=
      ⟨fun _ => [], Sink.outlet, [], .withRoom none⟩
    let arrivals : List Arrival :=
      [0x6c, 0xe2, 0x0d, 0x61, 0x04, 0x0a, 0x62].map Arrival.byte
    (∀ cycle ∈ runInTurn [start, start] arrivals,
        ∃ outcome, cycle.result = .ok outcome) ∧
      ∃ handled : List Text,
        HandleInTurn [start, start] arrivals handled ∧
          Utf8.Reads (Arrival.bytes arrivals) handled.flatten
            (Arrival.bytes (unreadInTurn [start, start] arrivals)) ∧
          Utf8.decode (Arrival.bytes arrivals) =
            handled.flatten ++
              Utf8.decode
                (Arrival.bytes (unreadInTurn [start, start] arrivals)) := by
  intro start arrivals
  have steady :
      ∀ each ∈ [start, start],
        each.outlet.Steady (fun sink => sink.room = none) ∧
          each.output.room = none := by
    intro each member
    have same : each = start := by simpa using member
    rw [same]
    exact ⟨Sink.steady_outlet, rfl⟩
  have well :
      ∀ cycle ∈ runInTurn [start, start] arrivals,
        ∃ outcome, cycle.result = .ok outcome :=
    runInTurn_ok steady (by simp [arrivals])
  exact ⟨well, exists_handled_and_reads [start, start] arrivals well⟩

end InTurn

end InteractiveShell
