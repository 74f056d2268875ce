import InteractiveShell.Proofs.Editor.Failure
import InteractiveShell.Proofs.Editor.Handled
import InteractiveShell.Proofs.Editor.Submission
import InteractiveShell.Proofs.Text.CommonPrefix
import Mathlib.Data.List.Basic

/-!
# When candidates are listed

Which keys make a cycle list the candidates is said here without tab states: two tabs directly
behind each other, at both of which the buffer is the same and several candidates leave it where it
is.  The first such pair lists, whatever was pressed before it, and nothing else does.

An edit has one bit for this.  `Edit.Tracks` says what the bit knows: it is set just if the last
key was a tab on a buffer that several candidates leave where it is.  Every key with which the edit
goes on keeps that up.
-/

namespace InteractiveShell

/-- The buffer behind a key that is pressed first on a buffer; nothing if the key ends the edit. -/
def bufferBehind? (completer : Completer) (buffer : Text) (key : Char) :
    Option Text :=
  match (Edit.start buffer).press completer key with
  | .proceed next _ => some next.buffer.text
  | .finish _ _ => none

/-- The buffer behind some keys; nothing if one of them ends the edit. -/
def bufferAfter? (completer : Completer) (seed keys : Text) : Option Text :=
  keys.foldlM (bufferBehind? completer) seed

/-- Several candidates are offered for a buffer, and what they have in common does not extend it. -/
structure Unresolved (completer : Completer) (buffer : Text) : Prop where
  several : 2 ≤ (completer buffer).length
  exhausted :
    ∃ common,
      IsLongestCommon (completer buffer) common ∧
        ¬ (buffer <+: common ∧ common ≠ buffer)

/-- The last two keys are tabs, both pressed on the same unresolved buffer. -/
def SecondTab (completer : Completer) (seed keys buffer : Text) : Prop :=
  ∃ front,
    keys = front ++ [Key.tab, Key.tab] ∧
      bufferAfter? completer seed front = some buffer ∧
        bufferAfter? completer seed (front ++ [Key.tab]) = some buffer ∧
          Unresolved completer buffer

section Keys

variable {completer : Completer} {seed : Text}

/-! ### Unresolved buffers -/

theorem remainder_eq_nil_iff {beginning text : Text} :
    remainder beginning text = [] ↔
      ¬ (beginning <+: text ∧ text ≠ beginning) := by
  rcases found : beginning.isPrefixOf? text with _ | rest
  · have apart : ¬ beginning <+: text := by
      rintro ⟨rest, whole⟩
      have present := List.isPrefixOf?_eq_some_iff_append_eq.mpr whole
      rw [found] at present
      cases present
    simp [remainder, found, apart]
  · have whole := List.append_eq_of_isPrefixOf?_eq_some found
    subst text
    simp [remainder, found]

theorem unresolved_iff {buffer : Text} :
    Unresolved completer buffer ↔
      2 ≤ (completer buffer).length ∧
        remainder buffer (longestCommonPrefix (completer buffer)) = [] := by
  rw [remainder_eq_nil_iff]
  constructor
  · rintro ⟨several, common, isCommon, exhausted⟩
    have nonempty : completer buffer ≠ [] :=
      List.ne_nil_of_length_pos (by omega)
    have same :=
      isCommon.eq nonempty (isLongestCommon_longestCommonPrefix nonempty)
    exact ⟨several, same ▸ exhausted⟩
  · rintro ⟨several, exhausted⟩
    have nonempty : completer buffer ≠ [] :=
      List.ne_nil_of_length_pos (by omega)
    exact
      ⟨several, _, isLongestCommon_longestCommonPrefix nonempty, exhausted⟩

theorem Edit.complete_of_awaiting
    {edit : Edit} {candidates : List Text} (several : 2 ≤ candidates.length)
    (second : edit.tabState = .awaitingSecondTab) :
    edit.complete candidates =
      .finish (.listed edit.buffer.text) (newLine ++ listing candidates) := by
  rcases candidates with _ | ⟨only, _ | ⟨other, others⟩⟩
  · simp at several
  · simp at several
  · simp [complete, second]

/-- A tab that is waited for lists the candidates. -/
theorem Edit.press_tab_of_awaiting
    {edit : Edit} (unresolved : Unresolved completer edit.buffer.text)
    (second : edit.tabState = .awaitingSecondTab) :
    edit.press completer Key.tab =
      .finish (.listed edit.buffer.text)
        (newLine ++ listing (completer edit.buffer.text)) := by
  rw [press, if_pos rfl]
  exact complete_of_awaiting unresolved.several second

/-- The first tab on an unresolved buffer rings the bell. -/
theorem Edit.press_tab_of_reading
    {edit : Edit} (unresolved : Unresolved completer edit.buffer.text)
    (first : edit.tabState = .reading) :
    edit.press completer Key.tab =
      .proceed { edit with tabState := .awaitingSecondTab } [Key.bell] := by
  rcases unresolved_iff.mp unresolved with ⟨several, exhausted⟩
  rw [press, if_pos rfl]
  generalize completer edit.buffer.text = candidates at several exhausted ⊢
  rcases candidates with _ | ⟨only, _ | ⟨second, others⟩⟩
  · simp at several
  · simp at several
  · simp [complete, first, exhausted]

/-! ### Buffers and edits -/

theorem Edit.start_text (edit : Edit) :
    Edit.start edit.buffer.text = edit.rested := by
  simp [start, rested, Buffer.ofText, Buffer.text]

theorem Edit.press_rested
    (edit : Edit) {key : Char} (other : key ≠ Key.tab) :
    edit.rested.press completer key = edit.press completer key := by
  simp only [press, if_neg other, rested]
  rfl

theorem Edit.complete_rested
    (edit : Edit) {candidates : List Text} (few : candidates.length < 2) :
    edit.rested.complete candidates = edit.complete candidates := by
  rcases candidates with _ | ⟨only, _ | ⟨other, others⟩⟩
  · rfl
  · rfl
  · simp only [List.length_cons] at few
    omega

theorem bufferAfter?_append_singleton (keys : Text) (key : Char) :
    bufferAfter? completer seed (keys ++ [key]) =
      (bufferAfter? completer seed keys).bind
        (bufferBehind? completer · key) := by
  simp [bufferAfter?, List.foldlM_append]

/-- The first tab on an unresolved buffer leaves it as it is. -/
theorem bufferBehind?_tab_of_unresolved
    {buffer : Text} (unresolved : Unresolved completer buffer) :
    bufferBehind? completer buffer Key.tab = some buffer := by
  have started : (Edit.start buffer).buffer.text = buffer :=
    Buffer.text_ofText buffer
  have unchanged : Unresolved completer (Edit.start buffer).buffer.text := by
    rwa [started]
  rw [bufferBehind?, Edit.press_tab_of_reading unchanged rfl]
  exact congrArg some started

/-- A key with which an edit goes on does to the buffer what it does to it in any edit. -/
theorem Edit.bufferBehind?_of_press
    {edit next : Edit} {key : Char} {shown : Text}
    (pressed : edit.press completer key = .proceed next shown) :
    bufferBehind? completer edit.buffer.text key = some next.buffer.text := by
  rw [bufferBehind?, start_text]
  by_cases tab : key = Key.tab
  · subst key
    cases state : edit.tabState with
    | reading =>
        have same : edit.rested = edit := by rw [rested, ← state]
        rw [same, pressed]
    | awaitingSecondTab =>
        rw [press, if_pos rfl] at pressed ⊢
        have few : (completer edit.buffer.text).length < 2 := by
          by_contra several
          rw [complete_of_awaiting (Nat.not_lt.mp several) state] at pressed
          cases pressed
        have same : edit.rested.buffer = edit.buffer := rfl
        rw [same, complete_rested edit few, pressed]
  · rw [press_rested edit tab, pressed]

/-! ### What an edit knows -/

/-- The last key is a tab on an unresolved buffer. -/
def FirstTab (completer : Completer) (seed keys : Text) : Prop :=
  ∃ front buffer,
    keys = front ++ [Key.tab] ∧
      bufferAfter? completer seed front = some buffer ∧
        Unresolved completer buffer

/-- An edit that went on behind some keys, and what was recorded, as the keys alone tell it. -/
structure Edit.Tracks (completer : Completer) (seed keys : Text)
    (edit : Edit) (recorded : Bytes) : Prop where
  reached : bufferAfter? completer seed keys = some edit.buffer.text
  awaits_iff :
    edit.tabState = .awaitingSecondTab ↔ FirstTab completer seed keys
  rung :
    edit.tabState = .awaitingSecondTab →
      Text.encode [Key.bell] <:+ recorded

namespace Edit

theorem Pressed.awaits
    {edit next : Edit} {key : Char} {shown : Text}
    (pressed : edit.Pressed completer key (.proceed next shown))
    (awaiting : next.tabState = .awaitingSecondTab) :
    key = Key.tab ∧
      shown = [Key.bell] ∧ Unresolved completer edit.buffer.text := by
  cases pressed with
  | unresolved several first exhausted =>
      exact ⟨rfl, rfl, unresolved_iff.mpr ⟨several, exhausted⟩⟩
  | unknown | completed | extended | notEnded | erased | notErased | typed =>
      cases awaiting

/-- An edit waits for a second tab just behind a tab on an unresolved buffer. -/
theorem awaits_iff_of_press
    {edit next : Edit} {key : Char} {shown : Text}
    (pressed : edit.press completer key = .proceed next shown) :
    next.tabState = .awaitingSecondTab ↔
      key = Key.tab ∧ Unresolved completer edit.buffer.text := by
  constructor
  · intro awaiting
    have rule := pressed_of_press_eq pressed
    rcases rule.awaits awaiting with ⟨tab, _, unresolved⟩
    exact ⟨tab, unresolved⟩
  · rintro ⟨rfl, unresolved⟩
    cases state : edit.tabState with
    | reading =>
        rw [press_tab_of_reading unresolved state] at pressed
        cases pressed
        rfl
    | awaitingSecondTab =>
        rw [press_tab_of_awaiting unresolved state] at pressed
        cases pressed

theorem tracks_start
    (completer : Completer) (seed : Text) (recorded : Bytes) :
    (Edit.start seed).Tracks completer seed [] recorded where
  reached := congrArg some (Buffer.text_ofText seed).symm
  awaits_iff := by
    constructor
    · intro awaiting
      cases awaiting
    · rintro ⟨front, buffer, keys, _⟩
      simp at keys
  rung := by
    intro awaiting
    cases awaiting

namespace Tracks

variable {edit next last : Edit} {keys : Text} {key : Char}
variable {shown buffer : Text} {recorded after : Bytes}

theorem press
    (tracks : edit.Tracks completer seed keys recorded)
    (pressed : edit.press completer key = .proceed next shown) :
    next.Tracks completer seed (keys ++ [key])
      (recorded ++ shown.encode) where
  reached := by
    rw [bufferAfter?_append_singleton, tracks.reached, Option.bind_some,
      bufferBehind?_of_press pressed]
  awaits_iff := by
    rw [awaits_iff_of_press pressed]
    constructor
    · rintro ⟨rfl, unresolved⟩
      exact ⟨keys, edit.buffer.text, rfl, tracks.reached, unresolved⟩
    · rintro ⟨front, buffer, split, reached, unresolved⟩
      rcases List.append_inj' split rfl with ⟨rfl, single⟩
      cases single
      rw [tracks.reached] at reached
      cases reached
      exact ⟨rfl, unresolved⟩
  rung := by
    intro awaiting
    have rule := pressed_of_press_eq pressed
    rcases rule.awaits awaiting with ⟨_, rfl, _⟩
    exact List.suffix_append _ _

theorem pressAll
    (tracks : edit.Tracks completer seed keys recorded)
    {later : Text}
    (pressed :
      edit.pressAll completer Outlet.recording recorded later =
        .editing last after) :
    last.Tracks completer seed (keys ++ later) after := by
  induction later generalizing edit keys recorded with
  | nil =>
      simp only [pressAll_nil, Progress.editing.injEq] at pressed
      rcases pressed with ⟨rfl, rfl⟩
      rwa [List.append_nil]
  | cons key later ih =>
      rw [Edit.pressAll] at pressed
      cases performed :
          (edit.press completer key).perform Outlet.recording recorded with
      | stopped result state =>
          rw [performed] at pressed
          cases pressed
      | editing next between =>
          rw [performed] at pressed
          rcases Reaction.eq_proceed_of_perform_eq_editing performed with
            ⟨shown, proceeds, written⟩
          rw [Outlet.writeAll_recording] at written
          cases written
          have tracked := ih (tracks.press proceeds) pressed
          rwa [List.append_assoc, List.singleton_append] at tracked

/-- An edit that waits has had the first of two tabs. -/
theorem secondTab
    (tracks : edit.Tracks completer seed keys recorded)
    (awaiting : edit.tabState = .awaitingSecondTab) :
    SecondTab completer seed (keys ++ [Key.tab]) edit.buffer.text := by
  rcases tracks.awaits_iff.mp awaiting with
    ⟨front, buffer, rfl, reached, unresolved⟩
  have stays :
      bufferAfter? completer seed (front ++ [Key.tab]) = some buffer := by
    rw [bufferAfter?_append_singleton, reached, Option.bind_some,
      bufferBehind?_tab_of_unresolved unresolved]
  have same : some edit.buffer.text = some buffer :=
    tracks.reached.symm.trans stays
  cases same
  exact
    ⟨front, by rw [List.append_assoc]; rfl, reached, stays, unresolved⟩

/-- The second of two tabs lists. -/
theorem press_of_secondTab
    (tracks : edit.Tracks completer seed keys recorded)
    (second : SecondTab completer seed (keys ++ [key]) buffer) :
    edit.press completer key =
      .finish (.listed buffer) (newLine ++ listing (completer buffer)) := by
  rcases second with ⟨front, split, before, between, unresolved⟩
  have split' : keys ++ [key] = (front ++ [Key.tab]) ++ [Key.tab] := by
    rw [split, List.append_assoc]
    rfl
  rcases List.append_inj' split' rfl with ⟨rfl, single⟩
  cases single
  have same : some edit.buffer.text = some buffer :=
    tracks.reached.symm.trans between
  cases same
  have awaiting : edit.tabState = .awaitingSecondTab :=
    tracks.awaits_iff.mpr ⟨front, _, rfl, before, unresolved⟩
  exact press_tab_of_awaiting unresolved awaiting

end Tracks

theorem tracks_of_editing
    {last : Edit} {recorded after : Bytes} {keys : Text}
    (pressed :
      (Edit.start seed).pressAll completer Outlet.recording recorded keys =
        .editing last after) :
    last.Tracks completer seed keys after :=
  (tracks_start completer seed recorded).pressAll pressed

/-- No key with which an edit went on is the second of two tabs. -/
theorem not_secondTab_of_editing
    {last : Edit} {recorded after : Bytes} {keys : Text}
    (pressed :
      (Edit.start seed).pressAll completer Outlet.recording recorded keys =
        .editing last after)
    (buffer : Text) :
    ¬ SecondTab completer seed keys buffer := by
  intro second
  rcases List.eq_nil_or_concat' keys with rfl | ⟨earlier, key, rfl⟩
  · rcases second with ⟨front, split, _⟩
    simp at split
  · rcases exists_editing_of_append pressed with
      ⟨middle, between, proceeds, presses⟩
    have tracks := tracks_of_editing proceeds
    rw [pressAll_singleton, tracks.press_of_secondTab second] at presses
    rcases Reaction.eq_proceed_of_perform_eq_editing presses with
      ⟨shown, finishes, _⟩
    cases finishes

end Edit

end Keys

/-! ### How cycles end -/

section Cycles

variable {σ : Type} {outlet : Outlet σ} {completer : Completer}
variable {seed : Text}

/-- An edit over a steady outlet fails only where a read fails. -/
theorem Outlet.Steady.exists_failure_of_runEdit
    {ready : σ → Prop} (steady : outlet.Steady ready)
    {output : σ} (begins : ready output)
    {decoder : Utf8.Decoder} {edit : Edit} {arrivals : List Arrival}
    {cycle : CycleEnd σ} {cause : SystemError}
    (ran : runEdit completer outlet decoder edit output arrivals = cycle)
    (failed : cycle.result = .error cause) :
    ∃ earlier last,
      arrivals = earlier ++ .failure cause :: cycle.unread ∧
        edit.pressAll completer outlet output
            (decoder.feedAll (Arrival.bytes earlier)).2 =
          .editing last cycle.output := by
  induction arrivals generalizing decoder edit output with
  | nil =>
      have unfailing : ∀ cause, Arrival.failure cause ∉ [] := by simp
      rcases steady.runEdit_ok begins completer decoder edit unfailing with
        ⟨outcome, ended⟩
      rw [ran, failed] at ended
      cases ended
  | cons arrival rest ih =>
      cases arrival with
      | failure other =>
          rw [runEdit] at ran
          subst cycle
          cases failed
          exact ⟨[], edit, rfl, rfl⟩
      | interruption =>
          rw [runEdit] at ran
          rcases ih begins ran with ⟨earlier, last, split, presses⟩
          refine ⟨.interruption :: earlier, last, ?_, presses⟩
          rw [List.cons_append, ← split]
      | byte value =>
          have well :=
            steady.pressAll_well begins completer edit
              (decoder.feed value).2
          rw [runEdit] at ran
          cases pressed :
              edit.pressAll completer outlet output
                (decoder.feed value).2 with
          | stopped result after =>
              simp only [pressed] at ran
              rw [pressed] at well
              rcases well with ⟨outcome, rfl⟩
              subst cycle
              cases failed
          | editing middle between =>
              simp only [pressed] at ran
              rw [pressed] at well
              rcases ih well ran with ⟨earlier, last, split, presses⟩
              refine ⟨.byte value :: earlier, last, ?_, ?_⟩
              · rw [List.cons_append, ← split]
              · rw [Arrival.bytes_byte, Utf8.Decoder.feedAll_cons,
                  Edit.pressAll_append_of_editing pressed, presses]

/-- An edit went on behind some keys, except perhaps a mark for a character that was cut off. -/
def Edit.GoesOn (completer : Completer) (outlet : Outlet σ) (edit : Edit)
    (output : σ) (keys : Text) : Prop :=
  ∃ handled marks last between,
    keys = handled ++ marks ∧
      (marks = [] ∨ marks = [Utf8.replacement]) ∧
        edit.pressAll completer outlet output handled =
          .editing last between

/-- A cycle ends on the last of its keys, or the edit goes on behind all of them and never lists. -/
def CycleEnd.EndsBehind (completer : Completer) (outlet : Outlet σ)
    (edit : Edit) (output : σ) (keys : Text) (cycle : CycleEnd σ) : Prop :=
  edit.EndsAtLast completer outlet output keys cycle.result cycle.output ∨
    (∀ buffer, cycle.result ≠ .ok (.listed buffer)) ∧
      edit.GoesOn completer outlet output keys

theorem Edit.close_ne_listed (edit : Edit) (buffer : Text) :
    edit.close.1 ≠ .listed buffer := by
  rw [close]
  split <;> simp

/--
A cycle over a steady outlet ends on the last key that it reads, or it goes on
behind all of them until the input ends or fails.
-/
theorem Outlet.Steady.exists_read_of_runCycle
    {ready : σ → Prop} (steady : outlet.Steady ready)
    (output : σ) (begins : ready output) (completer : Completer)
    (seed : Text) (arrivals : List Arrival) :
    let cycle := runCycle completer outlet seed output arrivals
    ∃ read,
      arrivals = read ++ cycle.unread ∧
        cycle.EndsBehind completer outlet (.start seed) output
          (Utf8.decode (Arrival.bytes read)) := by
  intro cycle
  have ran :
      runEdit completer outlet .idle (.start seed) output arrivals = cycle :=
    rfl
  cases ended : cycle.result with
  | ok outcome =>
      rcases runEdit_ends ran ended with
        ⟨read, split, idle, ends, _⟩ | ⟨nothing, last, between, presses, closes⟩
      · refine ⟨read, split, .inl ?_⟩
        rw [Utf8.decode, Utf8.Decoder.run_eq_feedAll_append_finish, idle]
        rwa [Utf8.Decoder.finish, List.append_nil]
      · refine ⟨arrivals, by rw [nothing, List.append_nil], .inr ⟨?_, ?_⟩⟩
        · intro buffer listed
          rw [listed] at closes
          have same := eq_of_conclude_eq_ok (congrArg Prod.fst closes)
          exact last.close_ne_listed buffer same.symm
        · exact
            ⟨_, [], last, between, (List.append_nil _).symm, .inl rfl,
              presses⟩
  | error cause =>
      rcases steady.exists_failure_of_runEdit begins ran ended with
        ⟨earlier, last, split, presses⟩
      refine
        ⟨earlier ++ [.failure cause], ?_, .inr ⟨fun _ listed => ?_, ?_⟩⟩
      · rw [List.append_assoc]
        exact split
      · rw [ended] at listed
        cases listed
      · have nothing : Arrival.bytes [.failure cause] = [] := rfl
        rw [Arrival.bytes_append, nothing, List.append_nil, Utf8.decode,
          Utf8.Decoder.run_eq_feedAll_append_finish]
        exact
          ⟨_, _, last, _, rfl, Utf8.Decoder.finish_eq _, presses⟩

theorem Edit.GoesOn.not_secondTab
    {recorded : Bytes} {keys : Text}
    (goesOn :
      (Edit.start seed).GoesOn completer Outlet.recording recorded keys)
    (buffer : Text) :
    ¬ SecondTab completer seed keys buffer := by
  rcases goesOn with ⟨handled, marks, last, between, rfl, mark, presses⟩
  rcases mark with rfl | rfl
  · rw [List.append_nil]
    exact not_secondTab_of_editing presses buffer
  · rintro ⟨front, split, _⟩
    have ends := congrArg List.getLast? split
    simp [Utf8.replacement, Key.tab] at ends

theorem Edit.EndsAtLast.not_secondTab_of_earlier
    {recorded after : Bytes} {keys earlier : Text}
    {result : Except SystemError Outcome}
    (ends :
      (Edit.start seed).EndsAtLast completer Outlet.recording recorded keys
        result after)
    (front : earlier <+: keys) (proper : earlier ≠ keys) (buffer : Text) :
    ¬ SecondTab completer seed earlier buffer := by
  rcases ends with ⟨handled, key, last, between, rfl, proceeds, _⟩
  rcases List.prefix_concat_iff.mp front with whole | ⟨more, rfl⟩
  · exact absurd whole proper
  · rcases exists_editing_of_append proceeds with ⟨_, _, begins, _⟩
    exact not_secondTab_of_editing begins buffer

/-- A recorded cycle lists just if it ends on the second of two tabs. -/
theorem Edit.EndsAtLast.listed_iff
    {recorded after : Bytes} {keys buffer : Text}
    {result : Except SystemError Outcome}
    (ends :
      (Edit.start seed).EndsAtLast completer Outlet.recording recorded keys
        result after) :
    result = .ok (.listed buffer) ↔ SecondTab completer seed keys buffer := by
  rcases ends with ⟨handled, key, last, between, rfl, proceeds, stops⟩
  have tracks := tracks_of_editing proceeds
  constructor
  · rintro rfl
    rcases Reaction.eq_finish_of_perform_eq_stopped stops with
      ⟨shown, finishes, _⟩
    have rule := pressed_of_press_eq finishes
    cases rule with
    | listed several second => exact tracks.secondTab second
  · intro second
    rw [tracks.press_of_secondTab second, Reaction.perform,
      Outcome.conclude_recording] at stops
    cases stops
    rfl

theorem Edit.EndsAtLast.shows_listing
    {recorded after : Bytes} {keys buffer : Text}
    (ends :
      (Edit.start seed).EndsAtLast completer Outlet.recording recorded keys
        (.ok (.listed buffer)) after) :
    Text.encode (Key.bell :: (newLine ++ listing (completer buffer))) <:+
      after := by
  rcases ends with ⟨handled, key, last, between, rfl, proceeds, stops⟩
  have tracks := tracks_of_editing proceeds
  rcases Reaction.eq_finish_of_perform_eq_stopped stops with
    ⟨shown, finishes, written⟩
  rw [Outlet.writeAll_recording] at written
  cases written
  have rule := pressed_of_press_eq finishes
  cases rule with
  | listed several second =>
      rcases tracks.rung second with ⟨before, rfl⟩
      refine ⟨before, ?_⟩
      rw [← List.singleton_append, Text.encode_append, List.append_assoc]

/-- A recorded cycle lists just if its last two keys are the first such tabs. -/
theorem CycleEnd.EndsBehind.listed_iff
    {recorded : Bytes} {keys : Text} {cycle : CycleEnd Bytes}
    (ends :
      cycle.EndsBehind completer Outlet.recording (.start seed) recorded
        keys)
    (buffer : Text) :
    cycle.result = .ok (.listed buffer) ↔
      SecondTab completer seed keys buffer ∧
        ∀ earlier other, earlier <+: keys → earlier ≠ keys →
          ¬ SecondTab completer seed earlier other := by
  rcases ends with ends | ⟨unlisted, goesOn⟩
  · rw [ends.listed_iff]
    constructor
    · intro second
      exact
        ⟨second, fun earlier other front proper =>
          ends.not_secondTab_of_earlier front proper other⟩
    · rintro ⟨second, _⟩
      exact second
  · constructor
    · intro listed
      exact absurd listed (unlisted buffer)
    · rintro ⟨second, _⟩
      exact absurd second (goesOn.not_secondTab buffer)

theorem CycleEnd.EndsBehind.shows_listing
    {recorded : Bytes} {keys buffer : Text} {cycle : CycleEnd Bytes}
    (ends :
      cycle.EndsBehind completer Outlet.recording (.start seed) recorded
        keys)
    (listed : cycle.result = .ok (.listed buffer)) :
    Text.encode (Key.bell :: (newLine ++ listing (completer buffer))) <:+
      cycle.output := by
  rcases ends with ends | ⟨unlisted, _⟩
  · rw [listed] at ends
    exact ends.shows_listing
  · exact absurd listed (unlisted buffer)

/-- The key before the second of two tabs is a tab. -/
theorem SecondTab.mem_between
    {front between buffer : Text}
    (second :
      SecondTab completer seed
        (front ++ [Key.tab] ++ between ++ [Key.tab]) buffer)
    (nonempty : between ≠ []) :
    Key.tab ∈ between := by
  rcases second with ⟨start, tabs, _⟩
  rcases List.eq_nil_or_concat' between with rfl | ⟨others, last, rfl⟩
  · exact absurd rfl nonempty
  · have split :
        (front ++ [Key.tab] ++ others) ++ [last, Key.tab] =
          start ++ [Key.tab, Key.tab] := by
      rw [← tabs]
      simp only [List.append_assoc, List.cons_append, List.nil_append]
    rcases List.append_inj' split rfl with ⟨_, pair⟩
    cases pair
    exact List.mem_append_right others List.mem_cons_self

/--
A cycle that can write everything lists candidates exactly if the keys that it
reads end with the first two tabs, directly behind each other, at both of
which the buffer is the same and several candidates leave it where it is.  The
bell of the first tab and the candidates are then what is written last.  Any
other key between two tabs keeps the second one from listing.
-/
theorem runCycle_listed_iff_secondTab
    {meter : Meter σ} (metered : outlet.Metered meter) {output : σ}
    (unlimited : meter.room output = none) (completer : Completer)
    (seed : Text) (arrivals : List Arrival) :
    let cycle := runCycle completer outlet seed output arrivals
    ∃ read keys,
      arrivals = read ++ cycle.unread ∧
        Utf8.decode (Arrival.bytes read) = keys ∧
          (∀ buffer,
            cycle.result = .ok (.listed buffer) ↔
              SecondTab completer seed keys buffer ∧
                ∀ earlier other, earlier <+: keys → earlier ≠ keys →
                  ¬ SecondTab completer seed earlier other) ∧
          (∀ buffer,
            cycle.result = .ok (.listed buffer) →
              ∃ before,
                meter.taken cycle.output =
                  meter.taken output ++ before ++
                    Text.encode
                      ([Key.bell, Key.carriageReturn, Key.lineFeed] ++
                        [' ', ' '].intercalate (completer buffer))) ∧
          ∀ front between,
            keys = front ++ [Key.tab] ++ between ++ [Key.tab] →
              between ≠ [] → Key.tab ∉ between →
                ∀ buffer, cycle.result ≠ .ok (.listed buffer) := by
  intro cycle
  have follows :
      ∃ whole,
        runCycle completer Outlet.recording seed [] arrivals = whole ∧
          CycleEnd.Follows meter [] output whole cycle :=
    ⟨_, rfl, metered.runEdit completer .idle (.start seed) [] output arrivals⟩
  rcases follows with ⟨whole, ran, follows⟩
  rcases follows.of_unlimited unlimited with
    ⟨result, unread, written, recorded, taken, _⟩
  have reads :=
    Outlet.recording_steady.exists_read_of_runCycle [] trivial completer
      seed arrivals
  rw [ran] at reads
  rcases reads with ⟨read, split, ends⟩
  rw [result, unread, taken]
  refine ⟨read, _, split, rfl, ends.listed_iff, ?_, ?_⟩
  · intro buffer listed
    rcases ends.shows_listing listed with ⟨before, shown⟩
    refine ⟨before, ?_⟩
    rw [List.append_assoc]
    exact congrArg _ (shown.trans recorded).symm
  · intro front between tabs nonempty other buffer listed
    have second := ((ends.listed_iff buffer).mp listed).1
    rw [tabs] at second
    exact other (second.mem_between nonempty)

/-- A key that leaves the buffer as it is comes between the first two of three tabs. -/
theorem runCycle_listed_iff_secondTab_interrupted :
    let completer : Completer := fun text =>
      [['b', 'a', 'r'], ['b', 'a', 'z']].filter text.isPrefixOf
    let arrivals : List Arrival :=
      [0x09, 0x04, 0x09, 0x09, 0x0d].map Arrival.byte
    let cycle :=
      runCycle completer Sink.outlet ['b', 'a'] (.withRoom none) arrivals
    Sink.meter.room (.withRoom none) = none ∧
      cycle.result = .ok (.listed ['b', 'a']) ∧
        cycle.unread = [.byte 0x0d] ∧
          SecondTab completer ['b', 'a']
              [Key.tab, Key.endOfTransmission, Key.tab, Key.tab]
              ['b', 'a'] ∧
            ¬ SecondTab completer ['b', 'a']
                [Key.tab, Key.endOfTransmission, Key.tab] ['b', 'a'] ∧
              ∃ before,
                cycle.output.bytes =
                  before ++
                    Text.encode "\x07\r\nbar  baz".toList := by
  intro completer arrivals cycle
  have outcome : cycle.result.toOption = some (.listed ['b', 'a']) := by
    decide +kernel
  have result : cycle.result = .ok (.listed ['b', 'a']) := by
    cases ended : cycle.result with
    | error cause =>
        rw [ended] at outcome
        cases outcome
    | ok other =>
        rw [ended] at outcome
        cases outcome
        rfl
  have unread : cycle.unread = [.byte 0x0d] := by
    decide +kernel
  have lists :=
    runCycle_listed_iff_secondTab Sink.metered_outlet
      (show Sink.meter.room (.withRoom none) = none from rfl) completer
      ['b', 'a'] arrivals
  rcases lists with ⟨read, keys, split, decoded, listed, shows, _⟩
  have behind : read = [0x09, 0x04, 0x09, 0x09].map Arrival.byte := by
    rw [show CycleEnd.unread _ = _ from unread] at split
    exact (List.append_inj' split rfl).1.symm
  have typed :
      keys = [Key.tab, Key.endOfTransmission, Key.tab, Key.tab] := by
    rw [← decoded, behind]
    decide
  subst typed
  rcases (listed ['b', 'a']).mp result with ⟨second, first⟩
  rcases shows ['b', 'a'] result with ⟨before, written⟩
  refine ⟨rfl, result, unread, second, ?_, before, written⟩
  exact first _ _ (List.prefix_append _ [Key.tab]) (by decide)

end Cycles

end InteractiveShell
