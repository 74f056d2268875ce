import InteractiveShell.Proofs.Editor.TypedAhead
import InteractiveShell.Proofs.Text.CommonPrefix
import InteractiveShell.Proofs.Text.Encoding
import Mathlib

/-!
# What the terminal shows

The terminal's line is a row of cells with a cursor.  A printed character fills the cell at the
cursor and takes the cursor on, a backspace takes it back, a bell leaves everything as it is.  A
backspace in the first column and any other control character have no meaning on the line, so a
text that can be replayed contains neither.

As long as neither the candidates nor the keys bring control characters of their own into the
buffer, replaying what an edit has written shows exactly its buffer: its characters up to the
cursor, and blanks beyond.  So the line that is submitted is the line that was seen.
-/

namespace InteractiveShell

/-- Whether a character belongs to the two blocks of control characters. -/
def isControl (character : Char) : Bool :=
  character.toNat < 0x20 ||
    (0x7F ≤ character.toNat && character.toNat ≤ 0x9F)

/-- A text without control characters. -/
def Printable (text : Text) : Prop :=
  ∀ character ∈ text, isControl character = false

/-- The keys that edit a line are control characters, and the blank and the mark of a malformed
sequence are not. -/
example :
    (Key.bell :: Key.special).all isControl = true ∧
      isControl ' ' = false ∧ isControl Utf8.replacement = false := by
  decide

/-- The terminal's line.  Its columns are counted from the one where the cursor stands behind an
empty buffer. -/
structure Screen where
  cells : Nat → Char
  cursor : Nat

namespace Screen

/-- The line with a text in its cells, the cursor behind it and blanks beyond. -/
def ofText (text : Text) : Screen :=
  ⟨fun column => text.getD column ' ', text.length⟩

/-- The line after a character was printed at the cursor. -/
def print (screen : Screen) (printed : Char) : Screen where
  cells column :=
    if column = screen.cursor then printed else screen.cells column
  cursor := screen.cursor + 1

/-- The line after a character was shown, if that has a meaning. -/
def display? (screen : Screen) (shown : Char) : Option Screen :=
  if shown = Key.bell then
    some screen
  else if shown = Key.backspace then
    match screen.cursor with
    | 0 => none
    | column + 1 => some { screen with cursor := column }
  else if isControl shown then
    none
  else
    some (screen.print shown)

/-- The line after a text was shown, if each of its characters has a meaning. -/
def replay? (screen : Screen) (shown : Text) : Option Screen :=
  shown.foldlM display? screen

@[simp]
theorem replay?_nil (screen : Screen) : screen.replay? [] = some screen :=
  rfl

@[simp]
theorem replay?_cons (screen : Screen) (first : Char) (rest : Text) :
    screen.replay? (first :: rest) =
      (screen.display? first).bind fun next => next.replay? rest :=
  rfl

theorem replay?_append (screen : Screen) (front back : Text) :
    screen.replay? (front ++ back) =
      (screen.replay? front).bind fun next => next.replay? back := by
  simp [replay?, List.foldlM_append]

theorem replay?_bell (screen : Screen) :
    screen.replay? [Key.bell] = some screen :=
  rfl

theorem display?_of_isControl_eq_false
    {shown : Char} (plain : isControl shown = false) (screen : Screen) :
    screen.display? shown = some (screen.print shown) := by
  have noBell : shown ≠ Key.bell := by
    rintro rfl
    cases plain
  have noBackspace : shown ≠ Key.backspace := by
    rintro rfl
    cases plain
  simp [display?, noBell, noBackspace, plain]

theorem print_ofText (text : Text) (printed : Char) :
    (ofText text).print printed = ofText (text ++ [printed]) := by
  have cells (column : Nat) :
      (if column = text.length then printed else text.getD column ' ') =
        (text ++ [printed]).getD column ' ' := by
    rcases Nat.lt_trichotomy column text.length with inside | behind | beyond
    · rw [if_neg (by omega), List.getD_append _ _ _ _ inside]
    · rw [if_pos behind, List.getD_append_right _ _ _ _ (by omega), behind]
      simp
    · rw [if_neg (by omega), List.getD_eq_default _ _ (by omega),
        List.getD_eq_default _ _ (by simp; omega)]
  have shown : (text ++ [printed]).length = text.length + 1 := by simp
  rw [ofText, ofText, print, shown]
  exact congrArg (Screen.mk · _) (funext cells)

/-- A printed text stands behind the one that is shown already. -/
theorem replay?_ofText_of_printable
    {added : Text} (plain : Printable added) (text : Text) :
    (ofText text).replay? added = some (ofText (text ++ added)) := by
  induction added generalizing text with
  | nil => simp
  | cons first rest ih =>
      have printed : isControl first = false :=
        plain first List.mem_cons_self
      have others : Printable rest := fun character member =>
        plain character (List.mem_cons_of_mem first member)
      rw [replay?_cons, display?_of_isControl_eq_false printed,
        Option.bind_some, print_ofText, ih others, List.append_assoc,
        List.singleton_append]

/-- An erasure takes the last character off the line. -/
theorem replay?_ofText_erasure (text : Text) (last : Char) :
    (ofText (text ++ [last])).replay? erasure = some (ofText text) := by
  have back (cells : Nat → Char) (column : Nat) :
      Screen.display? ⟨cells, column + 1⟩ Key.backspace =
        some ⟨cells, column⟩ :=
    rfl
  have cells (column : Nat) :
      (if column = text.length then ' '
        else (text ++ [last]).getD column ' ') =
        text.getD column ' ' := by
    rcases Nat.lt_trichotomy column text.length with inside | behind | beyond
    · rw [if_neg (by omega), List.getD_append _ _ _ _ inside]
    · rw [if_pos behind, List.getD_eq_default _ _ (by omega)]
    · rw [if_neg (by omega), List.getD_eq_default _ _ (by simp; omega),
        List.getD_eq_default _ _ (by omega)]
  have shown : (text ++ [last]).length = text.length + 1 := by simp
  rw [erasure, ofText, shown, replay?_cons, back, Option.bind_some,
    replay?_cons, display?_of_isControl_eq_false rfl, Option.bind_some,
    replay?_cons, print, back, Option.bind_some, replay?_nil, ofText]
  exact congrArg (fun cells => some (Screen.mk cells _)) (funext cells)

end Screen

/-! ### What candidates bring into the buffer -/

theorem Printable.longestCommonPrefix
    {candidates : List Text}
    (plain : ∀ candidate ∈ candidates, Printable candidate) :
    Printable (longestCommonPrefix candidates) := by
  cases candidates with
  | nil =>
      intro character member
      cases member
  | cons first rest =>
      intro character member
      exact plain first List.mem_cons_self character
        ((longestCommonPrefix_prefix_head first rest).subset member)

theorem Printable.remainder
    {text : Text} (plain : Printable text) (beginning : Text) :
    Printable (remainder beginning text) := by
  intro character member
  unfold InteractiveShell.remainder at member
  cases found : beginning.isPrefixOf? text with
  | none => simp [found] at member
  | some rest =>
      have whole : beginning ++ rest = text :=
        List.append_eq_of_isPrefixOf?_eq_some found
      refine plain character ?_
      rw [← whole]
      exact List.mem_append_right beginning (by simpa [found] using member)

/-! ### One key -/

section Keys

variable {completer : Completer}

/-- A completer none of whose candidates contains a control character. -/
def Completer.Plain (completer : Completer) : Prop :=
  ∀ text, ∀ candidate ∈ completer text, Printable candidate

/-- What a key with which an edit goes on shows leads from the old buffer to the new one. -/
theorem Edit.Pressed.shows
    (plain : completer.Plain) {edit next : Edit} {key : Char} {shown : Text}
    (handled : isControl key = true → key ∈ Key.special)
    (pressed : edit.Pressed completer key (.proceed next shown)) :
    (Screen.ofText edit.buffer.text).replay? shown =
      some (Screen.ofText next.buffer.text) := by
  cases pressed with
  | unknown nothing => exact Screen.replay?_bell _
  | completed single =>
      rename_i only
      have candidate : Printable only :=
        plain edit.buffer.text only (by simp [single])
      have inserted :
          Printable (remainder edit.buffer.text only ++ [' ']) := by
        intro character member
        rcases List.mem_append.mp member with rest | blank
        · exact candidate.remainder edit.buffer.text character rest
        · rw [List.mem_singleton.mp blank]
          rfl
      rw [Buffer.text_append]
      exact Screen.replay?_ofText_of_printable inserted _
  | unresolved several first exhausted => exact Screen.replay?_bell _
  | extended several first resolvable =>
      have common :=
        Printable.longestCommonPrefix (plain edit.buffer.text)
      rw [Buffer.text_append]
      exact
        Screen.replay?_ofText_of_printable
          (common.remainder edit.buffer.text) _
  | notEnded nonempty => rfl
  | erased erases popped =>
      have nonempty : edit.buffer.text ≠ [] := by
        intro empty
        rw [← Buffer.pop?_eq_none_iff, popped] at empty
        cases empty
      have shorter := Buffer.text_of_pop?_eq_some popped
      have whole :=
        Screen.replay?_ofText_erasure edit.buffer.text.dropLast
          (edit.buffer.text.getLast nonempty)
      rw [List.dropLast_concat_getLast, ← shorter] at whole
      exact whole
  | notErased erases empty => rfl
  | typed ordinary =>
      have printed : isControl key = false := by
        rw [Bool.eq_false_iff]
        exact fun control => ordinary (handled control)
      rw [Buffer.text_push]
      refine Screen.replay?_ofText_of_printable ?_ _
      intro character member
      rwa [List.mem_singleton.mp member]

end Keys

/-! ### A run of keys -/

section Runs

variable {completer : Completer}

@[simp]
theorem Sink.bytes_withRoom (room : Option Nat) :
    (Sink.withRoom room).bytes = [] :=
  rfl

theorem Sink.bytes_of_write_eq_ok
    {sink after : Sink} {bytes : Bytes} {count : Nat}
    (answer : Sink.outlet.write sink bytes = .ok (count, after)) :
    after.bytes = sink.bytes ++ bytes.take count := by
  simp only [Sink.outlet] at answer
  split at answer
  · simp only [Except.ok.injEq, Prod.mk.injEq] at answer
    rcases answer with ⟨rfl, rfl⟩
    simp [Sink.bytes]
  · cases answer
  · simp only [Except.ok.injEq, Prod.mk.injEq] at answer
    rcases answer with ⟨rfl, rfl⟩
    simp [Sink.bytes]

/-- What a sink took stands behind what it held. -/
theorem Sink.bytes_of_writeAll_eq_ok
    {sink after : Sink} {bytes : Bytes}
    (written : Sink.outlet.writeAll sink bytes = (.ok (), after)) :
    after.bytes = sink.bytes ++ bytes := by
  fun_induction Outlet.writeAll Sink.outlet sink bytes with
  | case1 sink =>
      cases written
      rw [List.append_nil]
  | case2 => cases written
  | case3 => cases written
  | case4 sink first rest taken between answer ih =>
      rw [ih written, Sink.bytes_of_write_eq_ok answer,
        List.take_succ_cons, List.append_assoc, List.cons_append,
        List.take_append_drop]

/--
While keys are pressed, the texts that are shown lead from the buffer before
them to the buffer behind them.
-/
theorem Edit.exists_shown_of_pressAll
    (plain : completer.Plain)
    {edit last : Edit} {output after : Sink} {keys : Text}
    (handled : ∀ key ∈ keys, isControl key = true → key ∈ Key.special)
    (pressed :
      edit.pressAll completer Sink.outlet output keys =
        .editing last after) :
    ∃ shown,
      after.bytes = output.bytes ++ Text.encode shown ∧
        (Screen.ofText edit.buffer.text).replay? shown =
          some (Screen.ofText last.buffer.text) := by
  induction keys generalizing edit output with
  | nil =>
      simp only [pressAll_nil, Progress.editing.injEq] at pressed
      rcases pressed with ⟨rfl, rfl⟩
      exact ⟨[], by simp, rfl⟩
  | cons key keys ih =>
      rw [Edit.pressAll] at pressed
      cases performed :
          (edit.press completer key).perform Sink.outlet output with
      | stopped result state =>
          rw [performed] at pressed
          cases pressed
      | editing next between =>
          rw [performed] at pressed
          rcases Reaction.eq_proceed_of_perform_eq_editing performed with
            ⟨first, proceeds, written⟩
          have rule := pressed_of_press_eq proceeds
          have begins := rule.shows plain (handled key List.mem_cons_self)
          have later : ∀ other ∈ keys,
              isControl other = true → other ∈ Key.special :=
            fun other member =>
              handled other (List.mem_cons_of_mem key member)
          rcases ih later pressed with ⟨rest, bytes, continues⟩
          refine ⟨first ++ rest, ?_, ?_⟩
          · rw [bytes, Sink.bytes_of_writeAll_eq_ok written,
              Text.encode_append, List.append_assoc]
          · rw [Screen.replay?_append, begins, Option.bind_some, continues]

/-- How a cycle that ends with an outcome leaves its buffer, and what it writes in doing so. -/
inductive Outcome.Leaves (completer : Completer) :
    Outcome → Text → Text → Prop where
  | submitted (buffer : Text) :
      Leaves completer (.submitted buffer) buffer newLine
  | listed (buffer : Text) :
      Leaves completer (.listed buffer) buffer
        (newLine ++ listing (completer buffer))
  | interrupted (buffer : Text) :
      Leaves completer .interrupted buffer newLine
  | endOfTransmission : Leaves completer .endOfInput [] newLine
  | endOfInput : Leaves completer .endOfInput [] []

theorem Edit.Pressed.leaves
    {edit : Edit} {key : Char} {outcome : Outcome} {shown : Text}
    (pressed : edit.Pressed completer key (.finish outcome shown)) :
    outcome.Leaves completer edit.buffer.text shown := by
  cases pressed with
  | listed several second => exact .listed _
  | interrupted => exact .interrupted _
  | ended empty =>
      rw [empty]
      exact .endOfTransmission
  | entered enters => exact .submitted _

theorem Edit.leaves_close (completer : Completer) (edit : Edit) :
    edit.close.1.Leaves completer edit.buffer.text edit.close.2 := by
  by_cases empty : edit.buffer.text = []
  · rw [close, if_pos (by simp [empty]), empty]
    exact .endOfInput
  · rw [close, if_neg (by simp [empty])]
    exact .submitted _

theorem Outcome.eq_of_conclude_eq_ok
    {outlet : Outlet Sink} {output after : Sink} {outcome result : Outcome}
    {shown : Text}
    (concluded :
      outcome.conclude outlet output shown = (.ok result, after)) :
    outlet.writeAll output shown.encode = (.ok (), after) := by
  rcases written : outlet.writeAll output shown.encode with ⟨answer, state⟩
  cases answer with
  | error cause => simp [conclude, written, Except.map] at concluded
  | ok =>
      simp only [conclude, written, Prod.mk.injEq] at concluded
      rw [concluded.2]

/-- A cycle that ends well has shown its last buffer before it wrote how it ended. -/
theorem exists_shown_of_runCycle
    (plain : completer.Plain) {seed : Text} {room : Option Nat}
    {arrivals : List Arrival} {outcome : Outcome}
    (handled :
      ∀ key ∈ Utf8.decode (Arrival.bytes arrivals),
        isControl key = true → key ∈ Key.special)
    (well :
      (runCycle completer Sink.outlet seed (.withRoom room) arrivals).result =
        .ok outcome) :
    ∃ buffer shown ending,
      outcome.Leaves completer buffer ending ∧
        (runCycle completer Sink.outlet seed (.withRoom room)
            arrivals).output.bytes =
          Text.encode (shown ++ ending) ∧
        (Screen.ofText seed).replay? shown =
          some (Screen.ofText buffer) := by
  let start : CycleStart Sink :=
    ⟨completer, Sink.outlet, seed, .withRoom room⟩
  have started : (Edit.start seed).buffer.text = seed :=
    Buffer.text_ofText seed
  have handles : ∃ keys, start.Handles arrivals keys :=
    CycleStart.exists_handles well
  rcases handles with ⟨keys, handles⟩
  have decoded := Utf8.decode_eq_append_of_reads handles.reads
  have among : ∀ key ∈ keys, isControl key = true → key ∈ Key.special := by
    intro key member
    refine handled key ?_
    rw [decoded]
    exact List.mem_append_left _ member
  have written (between : Sink) (shown ending : Text)
      (begins : between.bytes = Text.encode shown)
      (ends :
        Sink.outlet.writeAll between ending.encode =
          (.ok (), (start.run arrivals).output)) :
      (start.run arrivals).output.bytes =
        Text.encode (shown ++ ending) := by
    rw [Sink.bytes_of_writeAll_eq_ok ends, begins, Text.encode_append]
  rcases handles.ends with ⟨ends, _⟩ | ⟨ends, _⟩
  · rw [CycleStart.EndsOnKey, CycleStart.run, well] at ends
    rcases ends with ⟨earlier, key, last, between, rfl, proceeds, stops⟩
    have before : ∀ other ∈ earlier,
        isControl other = true → other ∈ Key.special :=
      fun other member => among other (List.mem_append_left [key] member)
    rcases Edit.exists_shown_of_pressAll plain before proceeds with
      ⟨shown, begins, shows⟩
    rcases Reaction.eq_finish_of_perform_eq_stopped stops with
      ⟨ending, finishes, ends⟩
    have rule := Edit.pressed_of_press_eq finishes
    rw [started] at shows
    exact
      ⟨last.buffer.text, shown, ending, rule.leaves,
        written between shown ending begins ends, shows⟩
  · rw [CycleStart.EndsWithInput, CycleStart.run, well] at ends
    rcases ends with ⟨last, between, proceeds, closes⟩
    rcases Edit.exists_shown_of_pressAll plain among proceeds with
      ⟨shown, begins, shows⟩
    have same : outcome = last.close.1 :=
      eq_of_conclude_eq_ok (congrArg Prod.fst closes)
    have ends := Outcome.eq_of_conclude_eq_ok closes
    have left := last.leaves_close completer
    rw [← same] at left
    rw [started] at shows
    exact
      ⟨last.buffer.text, shown, last.close.2, left,
        written between shown last.close.2 begins ends, shows⟩

/-- Replaying some bytes behind a seed shows a text. -/
def Screen.Shows (seed : Text) (written : Bytes) (text : Text) : Prop :=
  (Screen.ofText seed).replay? (Utf8.decode written) =
    some (Screen.ofText text)

/--
After every key, what an edit has written shows its buffer.  A cycle that
submits or lists a buffer had shown just this buffer in front of the line end
that it writes last, or last before the candidates.
-/
theorem shows_buffer
    (plain : completer.Plain) (seed : Text) (room : Option Nat)
    {arrivals : List Arrival}
    (handled :
      ∀ key ∈ Utf8.decode (Arrival.bytes arrivals),
        isControl key = true → key ∈ Key.special) :
    (∀ keys last after,
        keys <+: Utf8.decode (Arrival.bytes arrivals) →
          (Edit.start seed).pressAll completer Sink.outlet (.withRoom room)
              keys =
            .editing last after →
          Screen.Shows seed after.bytes last.buffer.text) ∧
      (∀ buffer,
        (runCycle completer Sink.outlet seed (.withRoom room)
              arrivals).result =
            .ok (.submitted buffer) →
          ∃ before,
            (runCycle completer Sink.outlet seed (.withRoom room)
                arrivals).output.bytes =
              before ++ Text.encode newLine ∧
              Screen.Shows seed before buffer) ∧
      ∀ buffer,
        (runCycle completer Sink.outlet seed (.withRoom room)
              arrivals).result =
            .ok (.listed buffer) →
          ∃ before,
            (runCycle completer Sink.outlet seed (.withRoom room)
                arrivals).output.bytes =
              before ++
                Text.encode (newLine ++ listing (completer buffer)) ∧
              Screen.Shows seed before buffer := by
  refine ⟨?_, ?_, ?_⟩
  · intro keys last after front pressed
    have among : ∀ key ∈ keys, isControl key = true → key ∈ Key.special :=
      fun key member => handled key (front.subset member)
    rcases Edit.exists_shown_of_pressAll plain among pressed with
      ⟨shown, written, shows⟩
    rw [Screen.Shows, written, Sink.bytes_withRoom, List.nil_append,
      Utf8.decode_encode, ← shows, Edit.start, Buffer.text_ofText]
  · intro buffer well
    rcases exists_shown_of_runCycle plain handled well with
      ⟨last, shown, ending, leaves, written, shows⟩
    cases leaves
    refine ⟨Text.encode shown, ?_, ?_⟩
    · rw [written, Text.encode_append]
    · rw [Screen.Shows, Utf8.decode_encode, shows]
  · intro buffer well
    rcases exists_shown_of_runCycle plain handled well with
      ⟨last, shown, ending, leaves, written, shows⟩
    cases leaves
    refine ⟨Text.encode shown, ?_, ?_⟩
    · rw [written, Text.encode_append]
    · rw [Screen.Shows, Utf8.decode_encode, shows]

/-- A character of two bytes, its erasure and a listing, behind a seed. -/
theorem shows_buffer_erased :
    let completer : Completer := fun text =>
      [['b', 'a', 'r'], ['b', 'a', 'z']].filter text.isPrefixOf
    let arrivals : List Arrival :=
      [0xc3, 0xa9, 0x7f, 0x09, 0x09].map Arrival.byte
    let cycle :=
      runCycle completer Sink.outlet ['b', 'a'] (.withRoom none) arrivals
    completer.Plain ∧
      (∀ key ∈ Utf8.decode (Arrival.bytes arrivals),
        isControl key = true → key ∈ Key.special) ∧
      cycle.result = .ok (.listed ['b', 'a']) ∧
      ∃ before,
        cycle.output.bytes =
            before ++
              Text.encode (newLine ++ listing (completer ['b', 'a'])) ∧
          Screen.Shows ['b', 'a'] before ['b', 'a'] := by
  intro completer arrivals cycle
  have plain : completer.Plain := by
    intro text candidate member
    have among := (List.mem_filter.mp member).1
    simp only [List.mem_cons, List.not_mem_nil, or_false] at among
    rcases among with rfl | rfl <;> simp [Printable, isControl]
  have handled :
      ∀ key ∈ Utf8.decode (Arrival.bytes arrivals),
        isControl key = true → key ∈ Key.special := by
    have decoded :
        Utf8.decode (Arrival.bytes arrivals) = ['é', '\x7f', '\t', '\t'] := by
      decide
    rw [decoded]
    simp only [List.forall_mem_cons]
    exact ⟨by decide, by decide, by decide, by decide, by simp⟩
  have listed : cycle.result = .ok (.listed ['b', 'a']) := by
    simp only [cycle, completer, arrivals]
    cbv
  have shows := shows_buffer plain ['b', 'a'] none handled
  exact ⟨plain, handled, listed, shows.2.2 ['b', 'a'] listed⟩

end Runs

end InteractiveShell
