import InteractiveShell.Proofs.Editor.TypedAhead
import InteractiveShell.Proofs.Outlet.Steady
import InteractiveShell.Session

/-!
# What an input submits

`Submissions.ofKeys` says which lines a run of keys submits and how it ends, and knows neither tab
states nor listings nor cycles: a tab inserts what the candidates agree on, and a completed line
goes on with an empty buffer.

Cycles over a stream submit the same lines and end in the same way, as long as the same candidates
are offered for the same text and no read or write fails.  A listing is no exception, because an
edit waits for a second tab only when the candidates leave nothing to insert, so the reference does
nothing where the edit lists.
-/

namespace InteractiveShell

/-- The lines that an input submits, and how it ends. -/
structure Submissions where
  lines : List Text
  outcome : Outcome
deriving DecidableEq

/-- What a tab inserts behind a buffer for which some candidates are offered. -/
def insertion (buffer : Text) : List Text → Text
  | [] => []
  | [only] => remainder buffer only ++ [' ']
  | candidates => remainder buffer (longestCommonPrefix candidates)

namespace Submissions

/-- A line is submitted in front of others. -/
def cons (line : Text) (later : Submissions) : Submissions :=
  { later with lines := line :: later.lines }

/-- What keys submit that are typed behind a buffer. -/
def ofKeys (completer : Completer) (buffer : Text) :
    Text → Submissions
  | [] => ⟨if buffer = [] then [] else [buffer], .endOfInput⟩
  | key :: later =>
      if key = Key.tab then
        ofKeys completer
          (buffer ++ insertion buffer (completer buffer)) later
      else if key = Key.interrupt then
        ⟨[], .interrupted⟩
      else if key = Key.endOfTransmission then
        if buffer = [] then
          ⟨[], .endOfInput⟩
        else
          ofKeys completer buffer later
      else if key = Key.carriageReturn ∨ key = Key.lineFeed then
        (ofKeys completer [] later).cons buffer
      else if key = Key.delete ∨ key = Key.backspace then
        ofKeys completer buffer.dropLast later
      else
        ofKeys completer (buffer ++ [key]) later

/-- What an input submits whose first cycle ended with an outcome and left some keys. -/
def behind (completer : Completer) (later : Text) :
    Outcome → Submissions
  | .submitted line => (ofKeys completer [] later).cons line
  | .listed buffer => ofKeys completer buffer later
  | .interrupted => ⟨[], .interrupted⟩
  | .endOfInput => ⟨[], .endOfInput⟩

end Submissions

/-! ### One key -/

section Keys

variable {completer : Completer}

theorem insertion_of_several
    {buffer : Text} {candidates : List Text}
    (several : 2 ≤ candidates.length) :
    insertion buffer candidates =
      remainder buffer (longestCommonPrefix candidates) := by
  match candidates, several with
  | _ :: _ :: _, _ => rfl

/-- An edit that waits for a second tab has nothing to insert. -/
def Edit.Settled (completer : Completer) (edit : Edit) : Prop :=
  edit.tabState = .awaitingSecondTab →
    insertion edit.buffer.text (completer edit.buffer.text) = []

theorem Edit.settled_start (completer : Completer) (seed : Text) :
    (Edit.start seed).Settled completer := by
  intro waiting
  cases waiting

/-- A key with which an edit goes on. -/
theorem Edit.Pressed.proceeds
    {edit next : Edit} {key : Char} {shown : Text}
    (pressed : edit.Pressed completer key (.proceed next shown)) :
    next.Settled completer ∧
      ∀ later,
        Submissions.ofKeys completer edit.buffer.text (key :: later) =
          Submissions.ofKeys completer next.buffer.text later := by
  have resting :
      ∀ buffer, Settled completer ⟨buffer, .reading⟩ := by
    intro buffer waiting
    cases waiting
  cases pressed with
  | unknown nothing =>
      refine ⟨resting edit.buffer, ?_⟩
      intro later
      simp [Submissions.ofKeys, nothing, insertion, rested]
  | completed single =>
      refine ⟨resting _, ?_⟩
      intro later
      simp [Submissions.ofKeys, single, insertion]
  | unresolved several first exhausted =>
      have nothing :
          insertion edit.buffer.text (completer edit.buffer.text) = [] := by
        rw [insertion_of_several several]
        exact exhausted
      refine ⟨fun _ => nothing, ?_⟩
      intro later
      simp [Submissions.ofKeys, nothing]
  | extended several first resolvable =>
      refine ⟨resting _, ?_⟩
      intro later
      simp [Submissions.ofKeys, insertion_of_several several]
  | notEnded nonempty =>
      refine ⟨resting edit.buffer, ?_⟩
      intro later
      have reserved :
          Key.endOfTransmission ≠ Key.tab ∧
            Key.endOfTransmission ≠ Key.interrupt := by
        decide
      simp [Submissions.ofKeys, nonempty, reserved, rested]
  | erased erases popped =>
      refine ⟨resting _, ?_⟩
      intro later
      rw [Buffer.text_of_pop?_eq_some popped]
      rcases erases with rfl | rfl <;> rfl
  | notErased erases empty =>
      refine ⟨resting edit.buffer, ?_⟩
      intro later
      rw [rested, Buffer.pop?_eq_none_iff.mp empty]
      rcases erases with rfl | rfl <;> rfl
  | typed ordinary =>
      refine ⟨resting _, ?_⟩
      intro later
      simp only [Key.special, List.mem_cons, List.not_mem_nil, or_false,
        not_or] at ordinary
      simp [Submissions.ofKeys, ordinary]

/-- A key with which an edit ends. -/
theorem Edit.Pressed.finishes
    {edit : Edit} {key : Char} {outcome : Outcome} {shown : Text}
    (settled : edit.Settled completer)
    (pressed : edit.Pressed completer key (.finish outcome shown))
    (later : Text) :
    Submissions.ofKeys completer edit.buffer.text (key :: later) =
      Submissions.behind completer later outcome := by
  cases pressed with
  | listed several second =>
      have nothing := settled second
      simp [Submissions.ofKeys, nothing, Submissions.behind]
  | interrupted => rfl
  | ended empty =>
      rw [empty]
      rfl
  | entered enters => rcases enters with rfl | rfl <;> rfl

end Keys

/-! ### One cycle -/

section Cycles

variable {σ : Type} {completer : Completer} {outlet : Outlet σ}

/-- Keys with which an edit goes on. -/
theorem Edit.Settled.pressAll
    {edit last : Edit} {output after : σ} {keys : Text}
    (settled : edit.Settled completer)
    (pressed :
      edit.pressAll completer outlet output keys = .editing last after) :
    last.Settled completer ∧
      ∀ later,
        Submissions.ofKeys completer edit.buffer.text (keys ++ later) =
          Submissions.ofKeys completer last.buffer.text later := by
  induction keys generalizing edit output with
  | nil =>
      simp only [pressAll_nil, Progress.editing.injEq] at pressed
      rcases pressed with ⟨rfl, rfl⟩
      exact ⟨settled, fun later => rfl⟩
  | cons key keys ih =>
      rw [Edit.pressAll] at pressed
      cases performed :
          (edit.press completer key).perform outlet output with
      | stopped result state =>
          rw [performed] at pressed
          cases pressed
      | editing next between =>
          rw [performed] at pressed
          rcases Reaction.eq_proceed_of_perform_eq_editing performed with
            ⟨shown, proceeds, _⟩
          have rule := pressed_of_press_eq proceeds
          rcases rule.proceeds with ⟨continues, first⟩
          rcases ih continues pressed with ⟨settles, others⟩
          refine ⟨settles, ?_⟩
          intro later
          rw [List.cons_append, first, others]

theorem Edit.EndsAtLast.ofKeys_eq
    {edit : Edit} {output after : σ} {keys : Text} {outcome : Outcome}
    (settled : edit.Settled completer)
    (ends :
      edit.EndsAtLast completer outlet output keys (.ok outcome) after)
    (later : Text) :
    Submissions.ofKeys completer edit.buffer.text (keys ++ later) =
      Submissions.behind completer later outcome := by
  rcases ends with ⟨earlier, key, last, between, rfl, proceeds, stops⟩
  rcases settled.pressAll proceeds with ⟨settles, same⟩
  rcases Reaction.eq_finish_of_perform_eq_stopped stops with
    ⟨shown, finishes, _⟩
  have rule := pressed_of_press_eq finishes
  rw [List.append_assoc, same, List.singleton_append]
  exact rule.finishes settles later

theorem Edit.EndsWithInput.ofKeys_eq
    {edit : Edit} {output after : σ} {keys : Text} {outcome : Outcome}
    (settled : edit.Settled completer)
    (ends :
      edit.EndsWithInput completer outlet output keys (.ok outcome) after) :
    Submissions.ofKeys completer edit.buffer.text keys =
      Submissions.behind completer [] outcome := by
  rcases ends with ⟨last, between, proceeds, closes⟩
  have same := (settled.pressAll proceeds).2 []
  have closed : outcome = last.close.1 :=
    eq_of_conclude_eq_ok (congrArg Prod.fst closes)
  rw [List.append_nil] at same
  rw [same, closed]
  by_cases empty : last.buffer.text = [] <;>
    simp [Edit.close, empty, Submissions.ofKeys, Submissions.behind,
      Submissions.cons]

/--
A cycle that ends well submits what the keys up to its end do: what is left
for the keys behind it follows from the outcome alone.
-/
theorem Submissions.ofKeys_of_runCycle
    {seed : Text} {output : σ} {arrivals : List Arrival} {outcome : Outcome}
    (well :
      (runCycle completer outlet seed output arrivals).result =
        .ok outcome) :
    ofKeys completer seed (Utf8.decode (Arrival.bytes arrivals)) =
      behind completer
        (Utf8.decode
          (Arrival.bytes
            (runCycle completer outlet seed output arrivals).unread))
        outcome := by
  let start : CycleStart σ := ⟨completer, outlet, seed, output⟩
  have started : (Edit.start seed).buffer.text = seed :=
    Buffer.text_ofText seed
  have settled := Edit.settled_start completer seed
  have handles : ∃ keys, start.Handles arrivals keys :=
    CycleStart.exists_handles well
  rcases handles with ⟨keys, handled⟩
  have decoded := Utf8.decode_eq_append_of_reads handled.reads
  rw [decoded]
  rcases handled.ends with ⟨ends, _⟩ | ⟨ends, nothing⟩
  · rw [CycleStart.EndsOnKey, CycleStart.run, well] at ends
    have agree := ends.ofKeys_eq settled
    rw [started] at agree
    exact agree _
  · rw [CycleStart.EndsWithInput, CycleStart.run, well] at ends
    have agree := ends.ofKeys_eq settled
    rw [started] at agree
    have unread :
        (runCycle completer outlet seed output arrivals).unread = [] :=
      nothing
    have silent : Utf8.decode (Arrival.bytes []) = [] := rfl
    rw [CycleStart.run, unread, silent, List.append_nil]
    exact agree

/-! ### Cycles to the end of the input -/

/-- The line that a cycle submitted, if it did. -/
def CycleEnd.submitted? (cycle : CycleEnd σ) : Option Text :=
  match cycle.result with
  | .ok (.submitted line) => some line
  | _ => none

/-- Cycles submitted some lines, and the last of them ended with the outcome. -/
def Submissions.MadeBy (all : Submissions) (cycles : List (CycleEnd σ)) :
    Prop :=
  cycles.filterMap CycleEnd.submitted? = all.lines ∧
    cycles.getLast?.map CycleEnd.result = some (.ok all.outcome)

theorem Submissions.MadeBy.last
    {cycle : CycleEnd σ} {outcome : Outcome}
    (ended : cycle.result = .ok outcome)
    (final : outcome.nextSeed? = none) :
    Submissions.MadeBy ⟨[], outcome⟩ [cycle] := by
  constructor
  · cases outcome <;>
      simp_all [CycleEnd.submitted?, Outcome.nextSeed?]
  · simp [ended]

/-- A cycle in front of others does not change how they end. -/
theorem Submissions.MadeBy.outcome_cons
    {cycles : List (CycleEnd σ)} {later : Submissions}
    (others : later.MadeBy cycles) (cycle : CycleEnd σ) :
    (cycle :: cycles).getLast?.map CycleEnd.result =
      some (.ok later.outcome) := by
  rcases others with ⟨_, outcome⟩
  cases cycles with
  | nil => cases outcome
  | cons next cycles => exact outcome

theorem Submissions.MadeBy.submitted
    {cycle : CycleEnd σ} {cycles : List (CycleEnd σ)} {line : Text}
    {later : Submissions}
    (ended : cycle.result = .ok (.submitted line))
    (others : later.MadeBy cycles) :
    (later.cons line).MadeBy (cycle :: cycles) := by
  constructor
  · have lines := others.1
    simp [CycleEnd.submitted?, ended, lines, Submissions.cons]
  · exact others.outcome_cons cycle

theorem Submissions.MadeBy.listed
    {cycle : CycleEnd σ} {cycles : List (CycleEnd σ)} {buffer : Text}
    {later : Submissions}
    (ended : cycle.result = .ok (.listed buffer))
    (others : later.MadeBy cycles) :
    later.MadeBy (cycle :: cycles) := by
  constructor
  · have lines := others.1
    simp [CycleEnd.submitted?, ended, lines]
  · exact others.outcome_cons cycle

theorem runCycles_of_last
    {seed : Text} {output : σ} {arrivals : List Arrival} {outcome : Outcome}
    (ended :
      (runCycle completer outlet seed output arrivals).result =
        .ok outcome)
    (final : outcome.nextSeed? = none) (count : Nat) :
    runCycles completer outlet output (count + 1) seed arrivals =
      [runCycle completer outlet seed output arrivals] := by
  simp [runCycles, ended, final]

theorem runCycles_of_next
    {seed next : Text} {output : σ} {arrivals : List Arrival}
    {outcome : Outcome}
    (ended :
      (runCycle completer outlet seed output arrivals).result =
        .ok outcome)
    (follows : outcome.nextSeed? = some next) (count : Nat) :
    runCycles completer outlet output (count + 1) seed arrivals =
      runCycle completer outlet seed output arrivals ::
        runCycles completer outlet output count next
          (runCycle completer outlet seed output arrivals).unread := by
  simp [runCycles, ended, follows]

theorem runCycle_mem_runCycles
    (seed : Text) (output : σ) (arrivals : List Arrival) (count : Nat) :
    runCycle completer outlet seed output arrivals ∈
      runCycles completer outlet output (count + 1) seed arrivals := by
  rw [runCycles]
  split
  · split <;> simp
  · simp

theorem outstanding_lt_of_next
    {seed next : Text} {output : σ} {arrivals : List Arrival}
    {outcome : Outcome}
    (ended :
      (runCycle completer outlet seed output arrivals).result =
        .ok outcome)
    (follows : outcome.nextSeed? = some next) :
    outstanding next
        (runCycle completer outlet seed output arrivals).unread <
      outstanding seed arrivals := by
  have shape :
      runCycle completer outlet seed output arrivals =
        ⟨.ok outcome, (runCycle completer outlet seed output arrivals).unread,
          (runCycle completer outlet seed output arrivals).output⟩ := by
    rw [← ended]
  exact outstanding_lt shape follows

/--
Cycles that run until the input is used up, and none of which fails, submit
the lines that the keys of the input submit when they are typed behind the
seed, and end with the same outcome.
-/
theorem Submissions.ofKeys_madeBy_runCycles
    {seed : Text} {output : σ} {arrivals : List Arrival} {count : Nat}
    (enough : outstanding seed arrivals < count)
    (well :
      ∀ cycle ∈ runCycles completer outlet output count seed arrivals,
        ∃ outcome, cycle.result = .ok outcome) :
    (Submissions.ofKeys completer seed
        (Utf8.decode (Arrival.bytes arrivals))).MadeBy
      (runCycles completer outlet output count seed arrivals) := by
  induction count generalizing seed arrivals with
  | zero => exact absurd enough (Nat.not_lt_zero _)
  | succ count ih =>
      rcases well _ (runCycle_mem_runCycles seed output arrivals count) with
        ⟨outcome, ended⟩
      have step := Submissions.ofKeys_of_runCycle ended
      have others :
          ∀ next, outcome.nextSeed? = some next →
            (Submissions.ofKeys completer next
                (Utf8.decode
                  (Arrival.bytes
                    (runCycle completer outlet seed output
                      arrivals).unread))).MadeBy
              (runCycles completer outlet output count next
                (runCycle completer outlet seed output
                  arrivals).unread) := by
        intro next follows
        rw [runCycles_of_next ended follows] at well
        have less := outstanding_lt_of_next ended follows
        exact
          ih (by omega) fun cycle member =>
            well cycle (List.mem_cons_of_mem _ member)
      rw [step]
      cases outcome with
      | submitted line =>
          rw [runCycles_of_next ended rfl]
          exact (others [] rfl).submitted ended
      | listed buffer =>
          rw [runCycles_of_next ended rfl]
          exact (others buffer rfl).listed ended
      | interrupted =>
          rw [runCycles_of_last ended rfl]
          exact .last ended rfl
      | endOfInput =>
          rw [runCycles_of_last ended rfl]
          exact .last ended rfl

/-- A listing, a completion behind it and a line that the end of the input submits. -/
theorem Submissions.ofKeys_madeBy_runCycles_listing :
    let completer : Completer := fun text =>
      [['b', 'a', 'r'], ['b', 'a', 'z']].filter text.isPrefixOf
    let arrivals : List Arrival :=
      [0x09, 0x09, 0x09, 0x72, 0x09, 0x0d, 0x78].map Arrival.byte
    outstanding ['b'] arrivals < 16 ∧
      (⟨[['b', 'a', 'r', ' '], ['x']], .endOfInput⟩ : Submissions).MadeBy
        (runCycles completer Sink.outlet (.withRoom none) 16 ['b']
          arrivals) := by
  intro completer arrivals
  have enough : outstanding ['b'] arrivals < 16 := by decide
  have well :=
    Sink.steady_outlet.runCycles_ok
      (show (Sink.withRoom none).room = none from rfl) completer 16 ['b']
      (show ∀ cause, .failure cause ∉ arrivals by simp [arrivals])
  have submits := Submissions.ofKeys_madeBy_runCycles enough well
  have reference :
      Submissions.ofKeys completer ['b']
          (Utf8.decode (Arrival.bytes arrivals)) =
        ⟨[['b', 'a', 'r', ' '], ['x']], .endOfInput⟩ := by
    decide
  rw [reference] at submits
  exact ⟨enough, submits⟩

end Cycles

end InteractiveShell
