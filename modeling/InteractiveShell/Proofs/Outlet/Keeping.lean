import InteractiveShell.Editor.Cycle

/-!
# What writing leaves as it is

A fact about the state of an outlet that no write destroys holds behind every run of writes too,
whether they succeed or fail: behind a text that is written to its end, behind the reactions to
keys, and behind a whole edit cycle.
-/

namespace InteractiveShell

variable {σ : Type} {outlet : Outlet σ} {kept : σ → Prop}

/-- No write destroys a fact about the state. -/
def Outlet.Keeps (outlet : Outlet σ) (kept : σ → Prop) : Prop :=
  ∀ (state : σ) (bytes : Bytes) (taken : Nat) (after : σ),
    kept state → outlet.write state bytes = .ok (taken, after) → kept after

theorem Outlet.Keeps.writeAll
    (keeps : outlet.Keeps kept) {state : σ} (holds : kept state)
    (bytes : Bytes) :
    kept (outlet.writeAll state bytes).2 := by
  fun_induction Outlet.writeAll outlet state bytes with
  | case1 state => exact holds
  | case2 state first rest cause written => exact holds
  | case3 state first rest after written =>
      exact keeps state (first :: rest) 0 after holds written
  | case4 state first rest taken after written ih =>
      exact ih (keeps state (first :: rest) (taken + 1) after holds written)

theorem Outlet.Keeps.conclude
    (keeps : outlet.Keeps kept) {output : σ} (holds : kept output)
    (outcome : Outcome) (shown : Text) :
    kept (outcome.conclude outlet output shown).2 :=
  keeps.writeAll holds shown.encode

/-- The state of the outlet at some progress. -/
def Progress.output : Progress σ → σ
  | .editing _ output => output
  | .stopped _ output => output

theorem Outlet.Keeps.perform
    (keeps : outlet.Keeps kept) {output : σ} (holds : kept output)
    (reaction : Reaction) :
    kept (reaction.perform outlet output).output := by
  cases reaction with
  | proceed edit shown =>
      have behind := keeps.writeAll holds shown.encode
      rw [Reaction.perform]
      rcases written : outlet.writeAll output shown.encode with
        ⟨answer, after⟩
      rw [written] at behind
      cases answer <;> exact behind
  | finish outcome shown => exact keeps.conclude holds outcome shown

theorem Outlet.Keeps.pressAll
    (keeps : outlet.Keeps kept) {output : σ} (holds : kept output)
    (completer : Completer) (edit : Edit) (keys : Text) :
    kept (edit.pressAll completer outlet output keys).output := by
  induction keys generalizing edit output with
  | nil => exact holds
  | cons key keys ih =>
      have behind := keeps.perform holds (edit.press completer key)
      rw [Edit.pressAll]
      cases performed :
          (edit.press completer key).perform outlet output with
      | editing next after =>
          rw [performed] at behind
          exact ih behind next
      | stopped result after =>
          rw [performed] at behind
          exact behind

theorem Outlet.Keeps.runEdit
    (keeps : outlet.Keeps kept) {output : σ} (holds : kept output)
    (completer : Completer) (decoder : Utf8.Decoder) (edit : Edit)
    (arrivals : List Arrival) :
    kept (runEdit completer outlet decoder edit output arrivals).output := by
  induction arrivals generalizing decoder edit output with
  | nil =>
      have behind := keeps.pressAll holds completer edit decoder.finish
      rw [InteractiveShell.runEdit]
      cases pressed :
          edit.pressAll completer outlet output decoder.finish with
      | editing last between =>
          rw [pressed] at behind
          exact keeps.conclude behind last.close.1 last.close.2
      | stopped result after =>
          rw [pressed] at behind
          exact behind
  | cons arrival rest ih =>
      cases arrival with
      | failure cause => exact holds
      | interruption => exact ih holds decoder edit
      | byte value =>
          have behind :=
            keeps.pressAll holds completer edit (decoder.feed value).2
          rw [InteractiveShell.runEdit]
          cases pressed :
              edit.pressAll completer outlet output
                (decoder.feed value).2 with
          | editing next between =>
              rw [pressed] at behind
              simp only [pressed]
              exact ih behind (decoder.feed value).1 next
          | stopped result after =>
              rw [pressed] at behind
              simp only [pressed]
              exact behind

theorem Outlet.Keeps.runCycle
    (keeps : outlet.Keeps kept) {output : σ} (holds : kept output)
    (completer : Completer) (seed : Text) (arrivals : List Arrival) :
    kept (runCycle completer outlet seed output arrivals).output :=
  keeps.runEdit holds completer .idle (.start seed) arrivals

end InteractiveShell
