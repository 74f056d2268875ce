import InteractiveShell.Editor.Cycle
import InteractiveShell.Proofs.Outlet.Metering

/-!
# Cycles whose terminal fails

A cycle over an outlet that stops taking bytes is compared with the same cycle over an outlet that
takes everything.  As long as all that the cycle shows finds room, there is no difference.
Otherwise the cycle ends at the write that found no room: the outlet holds just the first bytes of
what would have been shown, wherever that cuts, and the cycle has read no further than the other.

Both are compared with the cycle over a recording outlet, key by key.
-/

namespace InteractiveShell

section Following

variable {σ : Type} {outlet : Outlet σ} {meter : Meter σ}
variable {completer : Completer} {before : Bytes} {state : σ}

/--
Progress over an outlet beside recorded progress: the same while the outlet
takes everything, and stopped where it fails.
-/
inductive Progress.Follows (meter : Meter σ) (before : Bytes) (state : σ) :
    Progress Bytes → Progress σ → Prop where
  | editing {edit : Edit} {recorded : Bytes} {after : σ}
      (all : meter.TakesAll before state recorded after) :
      Follows meter before state (.editing edit recorded)
        (.editing edit after)
  | stopped {result : Except SystemError Outcome} {recorded : Bytes}
      {after : σ} (all : meter.TakesAll before state recorded after) :
      Follows meter before state (.stopped result recorded)
        (.stopped result after)
  | failed {progress : Progress Bytes} {after : σ}
      (part : meter.TakesPart before state progress.output after) :
      Follows meter before state progress
        (.stopped (.error .brokenPipe) after)

/-- A cycle over an outlet beside the recorded cycle. -/
inductive CycleEnd.Follows (meter : Meter σ) (before : Bytes) (state : σ) :
    CycleEnd Bytes → CycleEnd σ → Prop where
  | whole {result : Except SystemError Outcome} {unread : List Arrival}
      {recorded : Bytes} {after : σ}
      (all : meter.TakesAll before state recorded after) :
      Follows meter before state ⟨result, unread, recorded⟩
        ⟨result, unread, after⟩
  | failed {cycle : CycleEnd Bytes} {unread : List Arrival} {after : σ}
      (part : meter.TakesPart before state cycle.output after)
      (further : cycle.unread <:+ unread) :
      Follows meter before state cycle
        ⟨.error .brokenPipe, unread, after⟩

theorem Outcome.conclude_recording
    (outcome : Outcome) (before : Bytes) (shown : Text) :
    outcome.conclude Outlet.recording before shown =
      (.ok outcome, before ++ shown.encode) := by
  rw [conclude, Outlet.writeAll_recording]
  rfl

theorem Outlet.Metered.conclude
    (metered : outlet.Metered meter) (before : Bytes) (state : σ)
    (outcome : Outcome) (shown : Text) :
    (∃ after,
        outcome.conclude outlet state shown = (.ok outcome, after) ∧
          meter.TakesAll before state (before ++ shown.encode) after) ∨
      ∃ after,
        outcome.conclude outlet state shown =
            (.error .brokenPipe, after) ∧
          meter.TakesPart before state (before ++ shown.encode) after := by
  rcases metered.writeAll before state shown.encode with
    ⟨after, written, all⟩ | ⟨after, written, part⟩
  · left
    refine ⟨after, ?_, all⟩
    rw [Outcome.conclude, written]
    rfl
  · right
    refine ⟨after, ?_, part⟩
    rw [Outcome.conclude, written]
    rfl

/-- One reaction over a metered outlet and over a recording one. -/
theorem Outlet.Metered.perform
    (metered : outlet.Metered meter) (before : Bytes) (state : σ)
    (reaction : Reaction) :
    Progress.Follows meter before state
      (reaction.perform Outlet.recording before)
      (reaction.perform outlet state) := by
  cases reaction with
  | proceed edit shown =>
      have recorded :
          (Reaction.proceed edit shown).perform Outlet.recording before =
            .editing edit (before ++ shown.encode) := by
        rw [Reaction.perform, Outlet.writeAll_recording]
      rw [recorded, Reaction.perform]
      rcases metered.writeAll before state shown.encode with
        ⟨after, written, all⟩ | ⟨after, written, part⟩
      · rw [written]
        exact .editing all
      · rw [written]
        exact .failed part
  | finish outcome shown =>
      have recorded :
          (Reaction.finish outcome shown).perform Outlet.recording before =
            .stopped (.ok outcome) (before ++ shown.encode) := by
        rw [Reaction.perform, Outcome.conclude_recording]
      rw [recorded, Reaction.perform]
      rcases metered.conclude before state outcome shown with
        ⟨after, concluded, all⟩ | ⟨after, concluded, part⟩
      · rw [concluded]
        exact .stopped all
      · rw [concluded]
        exact .failed part

/-- What is recorded while keys are pressed comes behind what was recorded before. -/
theorem Edit.prefix_pressAll_recording
    (completer : Completer) (edit : Edit) (before : Bytes) (keys : Text) :
    before <+:
      (edit.pressAll completer Outlet.recording before keys).output :=
  (Outlet.recording_keeps before).pressAll (List.prefix_refl before)
    completer edit keys

theorem Progress.Follows.after
    {between : Bytes} {middle : σ} {recorded : Progress Bytes}
    {progress : Progress σ}
    (all : meter.TakesAll before state between middle)
    (follows : Progress.Follows meter between middle recorded progress) :
    Progress.Follows meter before state recorded progress := by
  cases follows with
  | editing rest => exact .editing (all.trans rest)
  | stopped rest => exact .stopped (all.trans rest)
  | failed part => exact .failed (all.takesPart part)

theorem Outlet.Metered.pressAll
    (metered : outlet.Metered meter) (completer : Completer) (edit : Edit)
    (before : Bytes) (state : σ) (keys : Text) :
    Progress.Follows meter before state
      (edit.pressAll completer Outlet.recording before keys)
      (edit.pressAll completer outlet state keys) := by
  induction keys generalizing edit before state with
  | nil => exact .editing (.refl meter before state)
  | cons key keys ih =>
      have first :=
        metered.perform before state (edit.press completer key)
      rw [Edit.pressAll, Edit.pressAll]
      generalize (edit.press completer key).perform Outlet.recording before =
        recorded at first ⊢
      generalize (edit.press completer key).perform outlet state =
        progress at first ⊢
      cases first with
      | editing all => exact (ih _ _ _).after all
      | stopped all => exact .stopped all
      | failed part =>
          apply Progress.Follows.failed
          apply part.extend
          cases recorded with
          | editing next between =>
              exact Edit.prefix_pressAll_recording completer next between keys
          | stopped result between => exact List.prefix_refl between

theorem CycleEnd.Follows.after
    {between : Bytes} {middle : σ} {recorded : CycleEnd Bytes}
    {cycle : CycleEnd σ}
    (all : meter.TakesAll before state between middle)
    (follows : CycleEnd.Follows meter between middle recorded cycle) :
    CycleEnd.Follows meter before state recorded cycle := by
  cases follows with
  | whole rest => exact .whole (all.trans rest)
  | failed part further => exact .failed (all.takesPart part) further

/-- The recorded cycle goes on behind the write at which a metered outlet fails. -/
theorem CycleEnd.Follows.of_takesPart
    {edit : Edit} {between : Bytes} {after : σ}
    (part : meter.TakesPart before state between after)
    (completer : Completer) (decoder : Utf8.Decoder)
    (rest : List Arrival) :
    CycleEnd.Follows meter before state
      (runEdit completer Outlet.recording decoder edit between rest)
      ⟨.error .brokenPipe, rest, after⟩ := by
  apply CycleEnd.Follows.failed
  · apply part.extend
    exact
      (Outlet.recording_keeps between).runEdit (List.prefix_refl between)
        completer decoder edit rest
  · exact unread_runEdit_suffix ..

/-- An edit over a metered outlet and over a recording one. -/
theorem Outlet.Metered.runEdit
    (metered : outlet.Metered meter) (completer : Completer)
    (decoder : Utf8.Decoder) (edit : Edit) (before : Bytes) (state : σ)
    (arrivals : List Arrival) :
    CycleEnd.Follows meter before state
      (runEdit completer Outlet.recording decoder edit before arrivals)
      (runEdit completer outlet decoder edit state arrivals) := by
  induction arrivals generalizing decoder edit before state with
  | nil =>
      have pressed :=
        metered.pressAll completer edit before state decoder.finish
      rw [InteractiveShell.runEdit, InteractiveShell.runEdit]
      generalize
        edit.pressAll completer Outlet.recording before decoder.finish =
          recorded at pressed ⊢
      generalize
        edit.pressAll completer outlet state decoder.finish =
          progress at pressed ⊢
      cases pressed with
      | @editing last between middle all =>
          dsimp only
          rw [Outcome.conclude_recording]
          rcases metered.conclude between middle last.close.1
              last.close.2 with
            ⟨after, concluded, rest⟩ | ⟨after, concluded, part⟩
          · rw [concluded]
            exact .whole (all.trans rest)
          · rw [concluded]
            exact .failed (all.takesPart part) (List.suffix_refl [])
      | stopped all => exact .whole all
      | failed part =>
          cases recorded with
          | editing last between =>
              dsimp only
              rw [Outcome.conclude_recording]
              exact
                .failed (part.extend (List.prefix_append _ _))
                  (List.suffix_refl [])
          | stopped result between =>
              exact .failed part (List.suffix_refl [])
  | cons arrival rest ih =>
      cases arrival with
      | interruption => exact ih decoder edit before state
      | failure cause => exact .whole (.refl meter before state)
      | byte value =>
          have pressed :=
            metered.pressAll completer edit before state
              (decoder.feed value).2
          rw [InteractiveShell.runEdit, InteractiveShell.runEdit]
          dsimp only
          generalize
            edit.pressAll completer Outlet.recording before
                (decoder.feed value).2 =
              recorded at pressed ⊢
          generalize
            edit.pressAll completer outlet state (decoder.feed value).2 =
              progress at pressed ⊢
          cases pressed with
          | editing all => exact (ih _ _ _ _).after all
          | stopped all => exact .whole all
          | failed part =>
              cases recorded with
              | editing next between =>
                  exact
                    .of_takesPart part completer (decoder.feed value).1 rest
              | stopped result between =>
                  exact .failed part (List.suffix_refl rest)

/-- An outlet without a limit leaves a cycle as it is recorded. -/
theorem CycleEnd.Follows.of_unlimited
    {recorded : CycleEnd Bytes} {cycle : CycleEnd σ}
    (unlimited : meter.room state = none)
    (follows : CycleEnd.Follows meter before state recorded cycle) :
    cycle.result = recorded.result ∧
      cycle.unread = recorded.unread ∧
        meter.TakesAll before state recorded.output cycle.output := by
  cases follows with
  | whole all => exact ⟨rfl, rfl, all⟩
  | failed part further =>
      exact absurd part (Meter.not_takesPart unlimited)

theorem CycleEnd.Follows.of_fits
    {recorded : CycleEnd Bytes} {cycle : CycleEnd σ} {written : Bytes}
    {limit : Nat} (limited : meter.room state = some limit)
    (shown : recorded.output = before ++ written)
    (fits : written.length ≤ limit)
    (follows : CycleEnd.Follows meter before state recorded cycle) :
    cycle.result = recorded.result ∧
      cycle.unread = recorded.unread ∧
        meter.taken cycle.output = meter.taken state ++ written := by
  cases follows with
  | whole all =>
      rcases all with ⟨same, recorded, held, _⟩
      have equal := List.append_cancel_left (shown.symm.trans recorded)
      rw [equal]
      exact ⟨rfl, rfl, held⟩
  | failed part further =>
      rcases part with ⟨same, room, recorded, bound, exceeds, _⟩
      have equal := List.append_cancel_left (shown.symm.trans recorded)
      rw [limited] at bound
      cases bound
      rw [equal] at fits
      exact absurd exceeds (Nat.not_lt.mpr fits)

theorem CycleEnd.Follows.of_exceeds
    {recorded : CycleEnd Bytes} {cycle : CycleEnd σ} {written : Bytes}
    {limit : Nat} (limited : meter.room state = some limit)
    (shown : recorded.output = before ++ written)
    (exceeds : limit < written.length)
    (follows : CycleEnd.Follows meter before state recorded cycle) :
    cycle.result = .error .brokenPipe ∧
      meter.taken cycle.output =
          meter.taken state ++ written.take limit ∧
        recorded.unread <:+ cycle.unread := by
  cases follows with
  | whole all =>
      rcases all with ⟨same, recorded, _, used⟩
      have equal := List.append_cancel_left (shown.symm.trans recorded)
      rw [limited, ← equal] at used
      generalize meter.room _ = left at used
      cases used
      omega
  | failed part further =>
      rcases part with ⟨same, room, recorded, bound, _, held⟩
      have equal := List.append_cancel_left (shown.symm.trans recorded)
      rw [limited] at bound
      cases bound
      rw [equal]
      exact ⟨rfl, held, further⟩

end Following

section Limits

variable {σ τ : Type} {wide : Outlet σ} {narrow : Outlet τ}
variable {wideMeter : Meter σ} {narrowMeter : Meter τ}

/--
A cycle over an outlet with limited room ends like the same cycle over an
outlet without a limit, if everything that this one writes finds room.
Otherwise it fails where the room ends: its outlet has taken just the first
bytes, as many as there was room for, and it has read no further.
-/
theorem runCycle_over_limit
    (wideMetered : wide.Metered wideMeter)
    (narrowMetered : narrow.Metered narrowMeter)
    {free : σ} {scarce : τ} {limit : Nat}
    (unlimited : wideMeter.room free = none)
    (limited : narrowMeter.room scarce = some limit)
    (completer : Completer) (seed : Text) (arrivals : List Arrival) :
    let whole := runCycle completer wide seed free arrivals
    let part := runCycle completer narrow seed scarce arrivals
    ∃ written : Bytes,
      wideMeter.taken whole.output = wideMeter.taken free ++ written ∧
        (written.length ≤ limit →
          part.result = whole.result ∧
            part.unread = whole.unread ∧
              narrowMeter.taken part.output =
                narrowMeter.taken scarce ++ written) ∧
        (limit < written.length →
          part.result = .error .brokenPipe ∧
            narrowMeter.taken part.output =
                narrowMeter.taken scarce ++ written.take limit ∧
              ∃ read more,
                arrivals = read ++ part.unread ∧
                  arrivals = (read ++ more) ++ whole.unread) := by
  intro whole part
  have wideFollows :=
    wideMetered.runEdit completer .idle (.start seed) [] free arrivals
  have narrowFollows :=
    narrowMetered.runEdit completer .idle (.start seed) [] scarce arrivals
  rcases wideFollows.of_unlimited unlimited with ⟨result, unread, all⟩
  rcases all with ⟨written, recorded, held, _⟩
  refine ⟨written, held, ?_, ?_⟩
  · intro fits
    rcases narrowFollows.of_fits limited recorded fits with
      ⟨sameResult, sameUnread, taken⟩
    exact
      ⟨sameResult.trans result.symm, sameUnread.trans unread.symm, taken⟩
  · intro exceeds
    rcases narrowFollows.of_exceeds limited recorded exceeds with
      ⟨failed, taken, further⟩
    refine ⟨failed, taken, ?_⟩
    have suffix : whole.unread <:+ part.unread := unread ▸ further
    have consumed : part.unread <:+ arrivals :=
      unread_runEdit_suffix completer narrow .idle (.start seed) scarce
        arrivals
    rcases suffix with ⟨more, joined⟩
    rcases consumed with ⟨read, cut⟩
    refine ⟨read, more, cut.symm, ?_⟩
    rw [List.append_assoc, joined, cut]

/-- Room for one byte of a character that takes two. -/
theorem runCycle_over_limit_character :
    let arrivals : List Arrival := [0xc3, 0xa9, 0x0d].map Arrival.byte
    let whole :=
      runCycle (fun _ => []) Sink.outlet [] (.withRoom none) arrivals
    let part :=
      runCycle (fun _ => []) Sink.outlet [] (.withRoom (some 1)) arrivals
    (Sink.meter.room (.withRoom none) = none ∧
        Sink.meter.room (.withRoom (some 1)) = some 1) ∧
      whole.output.bytes = [0xc3, 0xa9, 0x0d, 0x0a] ∧
        part.result = .error .brokenPipe ∧
          part.output.bytes = [0xc3] := by
  intro arrivals whole part
  have shown : whole.output.bytes = [0xc3, 0xa9, 0x0d, 0x0a] := by
    decide +kernel
  have compared :=
    runCycle_over_limit Sink.metered_outlet Sink.metered_outlet
      (show Sink.meter.room (.withRoom none) = none from rfl)
      (show Sink.meter.room (.withRoom (some 1)) = some 1 from rfl)
      (fun _ => []) [] arrivals
  rcases compared with ⟨written, held, _, exceeded⟩
  have same : written = [0xc3, 0xa9, 0x0d, 0x0a] := held.symm.trans shown
  subst same
  rcases exceeded (by decide) with ⟨failed, taken, _⟩
  exact ⟨⟨rfl, rfl⟩, shown, failed, taken⟩

end Limits

end InteractiveShell
