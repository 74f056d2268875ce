import InteractiveShell.Editor.Cycle
import InteractiveShell.Proofs.Editor.Press
import InteractiveShell.Proofs.Text.Character

/-!
# The keys that a cycle handles

A cycle reads bytes and presses keys.  When it ends well, it has read exactly the bytes of the keys
that it pressed: the last key ended it, and everything behind that key is still on the stream, for
the next cycle.  So cycles that follow each other on one stream share its keys out among
themselves; none is lost, none is pressed twice, and none is read before its turn.

The reason is that a byte completes at most one key besides a replacement character, and that a
replacement character ends no edit.
-/

namespace InteractiveShell

/-! ### Performing reactions -/

section Performing

variable {σ : Type} {completer : Completer} {outlet : Outlet σ}

theorem Reaction.eq_proceed_of_perform_eq_editing
    {reaction : Reaction} {output after : σ} {edit : Edit}
    (performed : reaction.perform outlet output = .editing edit after) :
    ∃ shown,
      reaction = .proceed edit shown ∧
        outlet.writeAll output shown.encode = (.ok (), after) := by
  cases reaction with
  | finish outcome shown => simp [perform] at performed
  | proceed next shown =>
      rcases written : outlet.writeAll output shown.encode with
        ⟨answer, state⟩
      cases answer with
      | error cause => simp [perform, written] at performed
      | ok =>
          simp only [perform, written, Progress.editing.injEq] at performed
          rcases performed with ⟨rfl, rfl⟩
          exact ⟨shown, rfl, written⟩

theorem Reaction.eq_finish_of_perform_eq_stopped
    {reaction : Reaction} {output after : σ} {outcome : Outcome}
    (performed :
      reaction.perform outlet output = .stopped (.ok outcome) after) :
    ∃ shown,
      reaction = .finish outcome shown ∧
        outlet.writeAll output shown.encode = (.ok (), after) := by
  cases reaction with
  | proceed next shown =>
      rcases written : outlet.writeAll output shown.encode with
        ⟨answer, state⟩
      cases answer <;> simp [perform, written] at performed
  | finish ending shown =>
      rcases written : outlet.writeAll output shown.encode with
        ⟨answer, state⟩
      cases answer with
      | error cause =>
          simp [perform, Outcome.conclude, written, Except.map] at performed
      | ok =>
          simp only [perform, Outcome.conclude, written, Except.map,
            Progress.stopped.injEq, Except.ok.injEq] at performed
          rcases performed with ⟨rfl, rfl⟩
          exact ⟨shown, rfl, written⟩

/-- A replacement character is typed like any other character. -/
theorem Edit.press_replacement (completer : Completer) (edit : Edit) :
    edit.press completer Utf8.replacement =
      .proceed ⟨edit.buffer.push Utf8.replacement, .reading⟩
        [Utf8.replacement] :=
  rfl

namespace Edit

@[simp]
theorem pressAll_nil (edit : Edit) (output : σ) :
    edit.pressAll completer outlet output [] = .editing edit output :=
  rfl

theorem pressAll_append_of_editing
    {edit between : Edit} {output after : σ} {front : Text}
    (pressed :
      edit.pressAll completer outlet output front = .editing between after)
    (back : Text) :
    edit.pressAll completer outlet output (front ++ back) =
      between.pressAll completer outlet after back := by
  induction front generalizing edit output with
  | nil =>
      simp only [pressAll_nil, Progress.editing.injEq] at pressed
      rcases pressed with ⟨rfl, rfl⟩
      rfl
  | cons key front ih =>
      rw [List.cons_append, pressAll]
      rw [pressAll] at pressed
      split at pressed
      · exact ih pressed
      · exact absurd pressed (by simp_all)

theorem pressAll_append_of_stopped
    {edit : Edit} {output after : σ} {front : Text}
    {result : Except SystemError Outcome}
    (pressed :
      edit.pressAll completer outlet output front = .stopped result after)
    (back : Text) :
    edit.pressAll completer outlet output (front ++ back) =
      .stopped result after := by
  induction front generalizing edit output with
  | nil => simp at pressed
  | cons key front ih =>
      rw [List.cons_append, pressAll]
      rw [pressAll] at pressed
      split at pressed
      · exact ih pressed
      · exact pressed

theorem exists_editing_of_append
    {edit last : Edit} {output after : σ} {front back : Text}
    (pressed :
      edit.pressAll completer outlet output (front ++ back) =
        .editing last after) :
    ∃ middle between,
      edit.pressAll completer outlet output front =
          .editing middle between ∧
        middle.pressAll completer outlet between back =
          .editing last after := by
  cases begun : edit.pressAll completer outlet output front with
  | stopped result state =>
      rw [pressAll_append_of_stopped begun] at pressed
      cases pressed
  | editing middle between =>
      rw [pressAll_append_of_editing begun] at pressed
      exact ⟨middle, between, rfl, pressed⟩

theorem pressAll_singleton (edit : Edit) (output : σ) (key : Char) :
    edit.pressAll completer outlet output [key] =
      (edit.press completer key).perform outlet output := by
  rw [pressAll]
  split <;> simp_all

/-- The last of some keys ends the edit, and no key before it does. -/
def EndsAtLast (completer : Completer) (outlet : Outlet σ)
    (edit : Edit) (output : σ) (keys : Text)
    (result : Except SystemError Outcome) (after : σ) : Prop :=
  ∃ earlier key last between,
    keys = earlier ++ [key] ∧
      edit.pressAll completer outlet output earlier =
        .editing last between ∧
      (last.press completer key).perform outlet between =
        .stopped result after

theorem EndsAtLast.append
    {edit middle : Edit} {output between after : σ} {front back : Text}
    {result : Except SystemError Outcome}
    (pressed :
      edit.pressAll completer outlet output front = .editing middle between)
    (ends :
      middle.EndsAtLast completer outlet between back result after) :
    edit.EndsAtLast completer outlet output (front ++ back) result after := by
  rcases ends with ⟨earlier, key, last, state, rfl, proceeds, stops⟩
  refine ⟨front ++ earlier, key, last, state, ?_, ?_, stops⟩
  · rw [List.append_assoc]
  · rw [pressAll_append_of_editing pressed, proceeds]

/-- Marks of malformed sequences end no edit. -/
theorem pressAll_marks_ne_stopped
    {marks : Text} (malformed : marks = [] ∨ marks = [Utf8.replacement])
    (edit : Edit) (output after : σ) (outcome : Outcome) :
    edit.pressAll completer outlet output marks ≠
      .stopped (.ok outcome) after := by
  rcases malformed with rfl | rfl
  · simp
  · intro stopped
    rw [pressAll_singleton, press_replacement] at stopped
    rcases Reaction.eq_finish_of_perform_eq_stopped stopped with
      ⟨shown, finished, _⟩
    cases finished

/--
When the keys that a byte completes end an edit well, then the last of them
does, and the decoder holds nothing back.
-/
theorem endsAtLast_of_pressAll_feed
    {edit : Edit} {output after : σ} {decoder : Utf8.Decoder} {byte : UInt8}
    {outcome : Outcome}
    (stopped :
      edit.pressAll completer outlet output (decoder.feed byte).2 =
        .stopped (.ok outcome) after) :
    (decoder.feed byte).1 = .idle ∧
      edit.EndsAtLast completer outlet output (decoder.feed byte).2
        (.ok outcome) after := by
  rcases decoder.feed_eq byte with
    ⟨marks, malformed, ⟨key, fed⟩ | ⟨next, fed⟩⟩
  · rw [fed] at stopped ⊢
    refine ⟨rfl, ?_⟩
    cases pressed : edit.pressAll completer outlet output marks with
    | editing last between =>
        rw [pressAll_append_of_editing pressed,
          pressAll_singleton] at stopped
        exact ⟨marks, key, last, between, rfl, pressed, stopped⟩
    | stopped result state =>
        rw [pressAll_append_of_stopped pressed] at stopped
        rw [stopped] at pressed
        exact absurd pressed (pressAll_marks_ne_stopped malformed _ _ _ _)
  · rw [fed] at stopped
    exact absurd stopped (pressAll_marks_ne_stopped malformed _ _ _ _)

end Edit

/-! ### Running an edit to its end -/

/-- The end of the input ends an edit behind some keys, none of which did. -/
def Edit.EndsWithInput (completer : Completer) (outlet : Outlet σ)
    (edit : Edit) (output : σ) (keys : Text)
    (result : Except SystemError Outcome) (after : σ) : Prop :=
  ∃ last between,
    edit.pressAll completer outlet output keys = .editing last between ∧
      last.close.1.conclude outlet between last.close.2 = (result, after)

theorem Edit.EndsWithInput.append
    {edit middle : Edit} {output between after : σ} {front back : Text}
    {result : Except SystemError Outcome}
    (pressed :
      edit.pressAll completer outlet output front = .editing middle between)
    (ends :
      middle.EndsWithInput completer outlet between back result after) :
    edit.EndsWithInput completer outlet output (front ++ back) result
      after := by
  rcases ends with ⟨last, state, proceeds, closes⟩
  exact
    ⟨last, state,
      by rw [pressAll_append_of_editing pressed, proceeds], closes⟩

@[simp]
theorem Arrival.bytes_nil : Arrival.bytes [] = [] :=
  rfl

@[simp]
theorem Arrival.bytes_byte (value : UInt8) (rest : List Arrival) :
    Arrival.bytes (.byte value :: rest) = value :: Arrival.bytes rest :=
  rfl

@[simp]
theorem Arrival.bytes_interruption (rest : List Arrival) :
    Arrival.bytes (.interruption :: rest) = Arrival.bytes rest :=
  rfl

@[simp]
theorem Arrival.bytes_append (front back : List Arrival) :
    Arrival.bytes (front ++ back) =
      Arrival.bytes front ++ Arrival.bytes back := by
  simp [Arrival.bytes]

/--
An edit that ends well either ends on a key, has read the bytes of whole keys
up to that one, and would have ended in the same way whatever came next; or it
ends with the input.
-/
theorem runEdit_ends
    {decoder : Utf8.Decoder} {edit : Edit} {output : σ}
    {arrivals : List Arrival} {cycle : CycleEnd σ} {outcome : Outcome}
    (ran : runEdit completer outlet decoder edit output arrivals = cycle)
    (well : cycle.result = .ok outcome) :
    (∃ read,
        arrivals = read ++ cycle.unread ∧
          (decoder.feedAll (Arrival.bytes read)).1 = .idle ∧
          edit.EndsAtLast completer outlet output
            (decoder.feedAll (Arrival.bytes read)).2
            cycle.result cycle.output ∧
          ∀ other,
            runEdit completer outlet decoder edit output (read ++ other) =
              { cycle with unread := other }) ∨
      (cycle.unread = [] ∧
        edit.EndsWithInput completer outlet output
          (decoder.run (Arrival.bytes arrivals))
          cycle.result cycle.output) := by
  induction arrivals generalizing decoder edit output with
  | nil =>
      refine .inr ?_
      rw [runEdit] at ran
      cases pressed :
          edit.pressAll completer outlet output decoder.finish with
      | editing last between =>
          rw [pressed] at ran
          subst cycle
          exact ⟨rfl, last, between, pressed, rfl⟩
      | stopped result after =>
          rw [pressed] at ran
          subst cycle
          have same : result = .ok outcome := well
          rw [same] at pressed
          exact
            absurd pressed (Edit.pressAll_marks_ne_stopped decoder.finish_eq _ _ _ _)
  | cons arrival rest ih =>
      cases arrival with
      | failure cause =>
          rw [runEdit] at ran
          subst cycle
          cases well
      | interruption =>
          rw [runEdit] at ran
          rcases ih ran with
            ⟨read, split, idle, ends, others⟩ | ⟨nothing, ends⟩
          · refine .inl ⟨.interruption :: read, ?_, idle, ends, others⟩
            rw [List.cons_append, ← split]
          · exact .inr ⟨nothing, ends⟩
      | byte value =>
          rw [runEdit] at ran
          cases pressed :
              edit.pressAll completer outlet output
                (decoder.feed value).2 with
          | stopped result after =>
              simp only [pressed] at ran
              subst cycle
              have same : result = .ok outcome := well
              subst same
              rcases Edit.endsAtLast_of_pressAll_feed pressed with
                ⟨idle, ends⟩
              refine .inl ⟨[.byte value], rfl, idle, ?_, ?_⟩
              · simpa [Utf8.Decoder.feedAll_cons] using ends
              · intro other
                rw [List.singleton_append, runEdit]
                simp only [pressed]
          | editing middle between =>
              simp only [pressed] at ran
              rcases ih ran with
                ⟨read, split, idle, ends, others⟩ | ⟨nothing, ends⟩
              · refine .inl ⟨.byte value :: read, ?_, idle, ?_, ?_⟩
                · rw [List.cons_append, ← split]
                · exact Edit.EndsAtLast.append pressed ends
                · intro other
                  rw [List.cons_append, runEdit]
                  simp only [pressed]
                  exact others other
              · refine .inr ⟨nothing, ?_⟩
                exact Edit.EndsWithInput.append pressed ends

end Performing

end InteractiveShell
