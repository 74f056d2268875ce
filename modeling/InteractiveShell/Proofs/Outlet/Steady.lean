import InteractiveShell.Editor.Cycle

/-!
# Outlets that do not fail

An outlet is steady on some of its states if in each of them it takes at least one byte of whatever
is written and is in one of them again.  Such an outlet takes everything.  A cycle that shows its
text to a steady outlet and reads a stream without failures ends well.
-/

namespace InteractiveShell

variable {σ : Type} {outlet : Outlet σ} {ready : σ → Prop}

/-- An outlet that takes something whenever it is in one of some states, and stays in them. -/
def Outlet.Steady (outlet : Outlet σ) (ready : σ → Prop) : Prop :=
  ∀ (state : σ) (bytes : Bytes), ready state → bytes ≠ [] →
    ∃ taken after,
      outlet.write state bytes = .ok (taken + 1, after) ∧ ready after

/-- A sink without a limit takes everything. -/
theorem Sink.steady_outlet :
    Sink.outlet.Steady fun sink => sink.room = none := by
  intro sink bytes unlimited nonempty
  cases bytes with
  | nil => exact absurd rfl nonempty
  | cons first rest =>
      have unbounded : sink.room = none := unlimited
      exact
        ⟨rest.length, { sink with taken := (first :: rest) :: sink.taken },
          by simp [Sink.outlet, unbounded], unbounded⟩

theorem Outlet.Steady.writeAll_ok
    (steady : outlet.Steady ready) {state : σ} (begins : ready state)
    (bytes : Bytes) :
    ∃ after, outlet.writeAll state bytes = (.ok (), after) ∧ ready after := by
  fun_induction Outlet.writeAll outlet state bytes with
  | case1 state => exact ⟨state, rfl, begins⟩
  | case2 state first rest cause written =>
      rcases steady state (first :: rest) begins (by simp) with
        ⟨taken, after, answer, _⟩
      rw [written] at answer
      cases answer
  | case3 state first rest after written =>
      rcases steady state (first :: rest) begins (by simp) with
        ⟨taken, after, answer, _⟩
      rw [written] at answer
      cases answer
  | case4 state first rest taken after written ih =>
      rcases steady state (first :: rest) begins (by simp) with
        ⟨again, later, answer, continues⟩
      rw [written] at answer
      cases answer
      exact ih continues

theorem Outlet.Steady.conclude_ok
    (steady : outlet.Steady ready) {output : σ} (begins : ready output)
    (outcome : Outcome) (shown : Text) :
    ∃ after,
      outcome.conclude outlet output shown = (.ok outcome, after) ∧
        ready after := by
  rcases steady.writeAll_ok begins shown.encode with
    ⟨after, written, continues⟩
  exact ⟨after, by simp [Outcome.conclude, written, Except.map], continues⟩

/-- Progress without a failure. -/
def Progress.Well (ready : σ → Prop) : Progress σ → Prop
  | .editing _ output => ready output
  | .stopped result _ => ∃ outcome, result = .ok outcome

theorem Outlet.Steady.perform_well
    (steady : outlet.Steady ready) {output : σ} (begins : ready output)
    (reaction : Reaction) :
    (reaction.perform outlet output).Well ready := by
  cases reaction with
  | proceed edit shown =>
      rcases steady.writeAll_ok begins shown.encode with
        ⟨after, written, continues⟩
      rw [Reaction.perform, written]
      exact continues
  | finish outcome shown =>
      rcases steady.conclude_ok begins outcome shown with ⟨after, concluded, _⟩
      simp only [Reaction.perform, concluded]
      exact ⟨outcome, rfl⟩

theorem Outlet.Steady.pressAll_well
    (steady : outlet.Steady ready) {output : σ} (begins : ready output)
    (completer : Completer) (edit : Edit) (keys : Text) :
    (edit.pressAll completer outlet output keys).Well ready := by
  induction keys generalizing edit output with
  | nil => exact begins
  | cons key keys ih =>
      have well := steady.perform_well begins (edit.press completer key)
      rw [Edit.pressAll]
      cases performed :
          (edit.press completer key).perform outlet output with
      | editing next after =>
          rw [performed] at well
          exact ih well next
      | stopped result after =>
          rw [performed] at well
          exact well

/-- An edit over a stream without failures ends well. -/
theorem Outlet.Steady.runEdit_ok
    (steady : outlet.Steady ready) {output : σ} (begins : ready output)
    (completer : Completer) (decoder : Utf8.Decoder) (edit : Edit)
    {arrivals : List Arrival}
    (unfailing : ∀ cause, .failure cause ∉ arrivals) :
    ∃ outcome,
      (runEdit completer outlet decoder edit output arrivals).result =
        .ok outcome := by
  induction arrivals generalizing decoder edit output with
  | nil =>
      have well :=
        steady.pressAll_well begins completer edit decoder.finish
      rw [runEdit]
      cases pressed :
          edit.pressAll completer outlet output decoder.finish with
      | editing last between =>
          rw [pressed] at well
          rcases steady.conclude_ok well last.close.1 last.close.2 with
            ⟨after, concluded, _⟩
          exact ⟨last.close.1, by simp [concluded]⟩
      | stopped result after =>
          rw [pressed] at well
          exact well
  | cons arrival rest ih =>
      have later : ∀ cause, .failure cause ∉ rest := fun cause member =>
        unfailing cause (List.mem_cons_of_mem arrival member)
      cases arrival with
      | failure cause =>
          exact absurd (List.mem_cons_self) (unfailing cause)
      | interruption =>
          rw [runEdit]
          exact ih begins decoder edit later
      | byte value =>
          have well :=
            steady.pressAll_well begins completer edit
              (decoder.feed value).2
          rw [runEdit]
          cases pressed :
              edit.pressAll completer outlet output
                (decoder.feed value).2 with
          | editing next between =>
              rw [pressed] at well
              simp only [pressed]
              exact ih well (decoder.feed value).1 next later
          | stopped result after =>
              rw [pressed] at well
              simp only [pressed]
              exact well

/-! ### Streams without failures -/

/-- What an edit leaves unread is the end of what it found. -/
theorem unread_runEdit_suffix
    (completer : Completer) (outlet : Outlet σ) (decoder : Utf8.Decoder)
    (edit : Edit) (output : σ) (arrivals : List Arrival) :
    (runEdit completer outlet decoder edit output arrivals).unread <:+
      arrivals := by
  induction arrivals generalizing decoder edit output with
  | nil =>
      rw [runEdit]
      split <;> exact List.suffix_refl []
  | cons arrival rest ih =>
      have behind : rest <:+ arrival :: rest := List.suffix_cons arrival rest
      cases arrival with
      | interruption => exact (ih decoder edit output).trans behind
      | failure cause => exact behind
      | byte value =>
          rw [runEdit]
          cases pressed :
              edit.pressAll completer outlet output
                (decoder.feed value).2 with
          | editing next between =>
              simp only [pressed]
              exact (ih _ _ _).trans behind
          | stopped result after =>
              simp only [pressed]
              exact behind

theorem Arrival.unfailing_unread
    {arrivals : List Arrival}
    (unfailing : ∀ cause, .failure cause ∉ arrivals)
    (completer : Completer) (outlet : Outlet σ) (seed : Text) (output : σ) :
    ∀ cause,
      .failure cause ∉
        (runCycle completer outlet seed output arrivals).unread :=
  fun cause member =>
    unfailing cause ((unread_runEdit_suffix ..).subset member)

/-- Cycles over a stream without failures end well. -/
theorem Outlet.Steady.runCycles_ok
    (steady : outlet.Steady ready) {output : σ} (begins : ready output)
    (completer : Completer) (count : Nat) (seed : Text)
    {arrivals : List Arrival}
    (unfailing : ∀ cause, .failure cause ∉ arrivals) :
    ∀ cycle ∈ runCycles completer outlet output count seed arrivals,
      ∃ outcome, cycle.result = .ok outcome := by
  induction count generalizing seed arrivals with
  | zero => simp [runCycles]
  | succ count ih =>
      have first :
          ∃ outcome,
            (runCycle completer outlet seed output arrivals).result =
              .ok outcome :=
        steady.runEdit_ok begins completer .idle (.start seed) unfailing
      intro cycle member
      rw [runCycles] at member
      split at member
      · split at member
        · rcases List.mem_cons.mp member with rfl | later
          · exact first
          · have unread :=
              Arrival.unfailing_unread unfailing completer outlet seed output
            exact ih _ unread cycle later
        · rw [List.mem_singleton.mp member]
          exact first
      · rw [List.mem_singleton.mp member]
        exact first

end InteractiveShell
