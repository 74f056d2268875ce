import InteractiveShell.Proofs.Completion.Entering
import InteractiveShell.Proofs.Completion.Sorting
import InteractiveShell.Proofs.Editor.Listing

/-!
# What tabs in a row do

A completer whose candidates for a longer text are those for a shorter one that begin with it offers
the same candidates for what they have in common.  So a tab that inserts the common beginning of
several candidates loses none of them and leaves nothing for the next tab to insert.  A single
candidate is inserted with a space behind it, and no candidate goes on like that.

Of any number of tabs in a row only the first can therefore change the buffer, and it only ever adds
to it.  `tabs_settle` says so of the names in a world.
-/

namespace InteractiveShell

section Narrowing

variable {completer : Completer} {beginning : Text}

/-! ### Candidates and what they have in common -/

theorem longestCommonPrefix_prefix_of_mem
    {texts : List Text} {text : Text} (member : text ∈ texts) :
    longestCommonPrefix texts <+: text :=
  (isLongestCommon_longestCommonPrefix (List.ne_nil_of_mem member)).begins
    text member

theorem prefix_longestCommonPrefix_of_forall
    {texts : List Text} (nonempty : texts ≠ [])
    (begins : ∀ text ∈ texts, beginning <+: text) :
    beginning <+: longestCommonPrefix texts := by
  cases texts with
  | nil => exact absurd rfl nonempty
  | cons first rest => exact prefix_longestCommonPrefix_iff.mpr begins

namespace Completer.Narrows

theorem prefix_of_mem
    (narrows : completer.Narrows) {name : Text}
    (member : name ∈ completer beginning) :
    beginning <+: name := by
  rw [narrows (List.prefix_refl beginning), List.mem_filter,
    List.isPrefixOf_iff_prefix] at member
  exact member.2

theorem prefix_longestCommonPrefix
    (narrows : completer.Narrows) (nonempty : completer beginning ≠ []) :
    beginning <+: longestCommonPrefix (completer beginning) :=
  prefix_longestCommonPrefix_of_forall nonempty fun _ member =>
    narrows.prefix_of_mem member

/-- The common beginning of the candidates for a text has the same candidates. -/
theorem candidates_longestCommonPrefix
    (narrows : completer.Narrows) (nonempty : completer beginning ≠ []) :
    completer (longestCommonPrefix (completer beginning)) =
      completer beginning := by
  rw [narrows (narrows.prefix_longestCommonPrefix nonempty),
    List.filter_eq_self]
  intro name member
  rw [List.isPrefixOf_iff_prefix]
  exact longestCommonPrefix_prefix_of_mem member

/-- No candidate goes on with a space behind the only candidate. -/
theorem candidates_append_space
    (narrows : completer.Narrows) {name : Text}
    (single : completer beginning = [name]) :
    completer (name ++ [' ']) = [] := by
  have begins : beginning <+: name :=
    narrows.prefix_of_mem (single ▸ List.mem_singleton_self name)
  rw [narrows (begins.trans (List.prefix_append name [' '])), single,
    List.filter_eq_nil_iff]
  intro other member longer
  rw [List.mem_singleton.mp member, List.isPrefixOf_iff_prefix] at longer
  have shorter := longer.length_le
  simp at shorter

/-- What a tab inserts makes the buffer what several candidates have in common. -/
theorem append_insertion
    (narrows : completer.Narrows)
    (several : 2 ≤ (completer beginning).length) :
    beginning ++ insertion beginning (completer beginning) =
      longestCommonPrefix (completer beginning) := by
  have nonempty : completer beginning ≠ [] :=
    List.ne_nil_of_length_pos (by omega)
  rw [insertion_of_several several,
    append_remainder (narrows.prefix_longestCommonPrefix nonempty)]

/-- Behind what a tab inserts there is nothing more to insert. -/
theorem insertion_append_insertion
    (narrows : completer.Narrows) (buffer : Text) :
    insertion (buffer ++ insertion buffer (completer buffer))
        (completer (buffer ++ insertion buffer (completer buffer))) =
      [] := by
  rcases candidates : completer buffer with
    _ | ⟨only, _ | ⟨second, others⟩⟩
  · simp [insertion, candidates]
  · have begins : buffer <+: only :=
      narrows.prefix_of_mem (candidates ▸ List.mem_singleton_self only)
    rw [insertion, ← List.append_assoc, append_remainder begins,
      narrows.candidates_append_space candidates]
    rfl
  · have nonempty : completer buffer ≠ [] := by simp [candidates]
    have several : 2 ≤ (completer buffer).length := by simp [candidates]
    rw [← candidates, narrows.append_insertion several,
      narrows.candidates_longestCommonPrefix nonempty,
      insertion_of_several several, remainder_eq_nil_iff]
    exact fun longer => longer.2 rfl

end Completer.Narrows

/-! ### One tab -/

/-- What a tab shows that inserts a text: the text, or the bell if there is nothing to insert. -/
def insertionShown (added : Text) : Text :=
  if added = [] then [Key.bell] else added

/-- A tab lists, or it inserts what the candidates agree on and shows it. -/
theorem Edit.press_tab_cases (completer : Completer) (edit : Edit) :
    (edit.tabState = .awaitingSecondTab ∧
      edit.press completer Key.tab =
        .finish (.listed edit.buffer.text)
          (newLine ++ listing (completer edit.buffer.text))) ∨
      ∃ next : Edit,
        edit.press completer Key.tab =
          .proceed next
            (insertionShown
              (insertion edit.buffer.text
                (completer edit.buffer.text))) ∧
          next.buffer.text =
            edit.buffer.text ++
              insertion edit.buffer.text (completer edit.buffer.text) := by
  have pressed := pressed_press completer edit Key.tab
  generalize edit.press completer Key.tab = reaction at pressed ⊢
  generalize tab : Key.tab = key at pressed
  cases pressed with
  | listed several second => exact .inl ⟨second, rfl⟩
  | unknown nothing =>
      right
      exact ⟨_, by rw [nothing]; rfl, by simp [nothing, insertion, rested]⟩
  | @completed only single =>
      right
      have added :
          insertionShown (insertion edit.buffer.text [only]) =
            insertion edit.buffer.text [only] :=
        if_neg (by simp [insertion])
      rw [single, added]
      exact ⟨_, rfl, Buffer.text_append _ _⟩
  | unresolved several first exhausted =>
      right
      rw [insertion_of_several several, exhausted]
      exact ⟨_, rfl, (List.append_nil _).symm⟩
  | extended several first resolvable =>
      right
      rw [insertion_of_several several, insertionShown, if_neg resolvable]
      exact ⟨_, rfl, Buffer.text_append _ _⟩
  | interrupted | ended | notEnded => exact absurd tab (by decide)
  | entered special | erased special | notErased special =>
      rcases special with rfl | rfl <;> exact absurd tab (by decide)
  | typed ordinary =>
      subst tab
      exact absurd ordinary (by decide)

/-! ### Tabs in a row -/

/-- The edit behind a tab; behind a listing the next edit starts from the buffer. -/
def Edit.afterTab (completer : Completer) (edit : Edit) : Edit :=
  match edit.press completer Key.tab with
  | .proceed next _ => next
  | .finish outcome _ => .start (outcome.nextSeed?.getD [])

/-- A tab rings the bell, and the tab directly behind it lists given candidates on a line of their
own, with two spaces between them. -/
def Edit.ListsNext (completer : Completer) (edit : Edit)
    (candidates : List Text) : Prop :=
  ∃ waiting : Edit,
    edit.press completer Key.tab = .proceed waiting [Key.bell] ∧
      waiting.buffer = edit.buffer ∧
        waiting.press completer Key.tab =
          .finish (.listed edit.buffer.text)
            ([Key.carriageReturn, Key.lineFeed] ++
              [' ', ' '].intercalate candidates)

namespace Edit

theorem settled_of_reading
    {edit : Edit} (reading : edit.tabState = .reading) :
    edit.Settled completer := by
  intro waiting
  rw [reading] at waiting
  cases waiting

theorem Settled.afterTab
    {edit : Edit} (settled : edit.Settled completer) :
    (edit.afterTab completer).Settled completer ∧
      (edit.afterTab completer).buffer.text =
        edit.buffer.text ++
          insertion edit.buffer.text (completer edit.buffer.text) := by
  rcases edit.press_tab_cases completer with
    ⟨waiting, listed⟩ | ⟨next, proceeds, extended⟩
  · rw [Edit.afterTab, listed, settled waiting, List.append_nil]
    exact ⟨settled_start completer _, Buffer.text_ofText _⟩
  · rw [Edit.afterTab, proceeds]
    exact ⟨(pressed_of_press_eq proceeds).proceeds.1, extended⟩

/-- Of any number of tabs in a row only the first changes the buffer. -/
theorem Settled.iterate_afterTab
    {edit : Edit} (narrows : completer.Narrows)
    (settled : edit.Settled completer) (count : Nat) :
    ((Edit.afterTab completer)^[count] (edit.afterTab completer)).Settled
        completer ∧
      ((Edit.afterTab completer)^[count]
          (edit.afterTab completer)).buffer.text =
        (edit.afterTab completer).buffer.text := by
  have first := settled.afterTab
  induction count with
  | zero => exact ⟨first.1, rfl⟩
  | succ count ih =>
      have next := ih.1.afterTab
      rw [Function.iterate_succ_apply']
      refine ⟨next.1, ?_⟩
      rw [next.2, ih.2, first.2, narrows.insertion_append_insertion,
        List.append_nil]

/-- A tab with which the edit goes on leaves in the buffer what several candidates agree on. -/
theorem text_of_press_tab
    {edit next : Edit} {shown : Text} (narrows : completer.Narrows)
    (several : 2 ≤ (completer edit.buffer.text).length)
    (proceeds : edit.press completer Key.tab = .proceed next shown) :
    next.buffer.text = longestCommonPrefix (completer edit.buffer.text) := by
  rcases edit.press_tab_cases completer with
    ⟨_, listed⟩ | ⟨other, otherwise, added⟩
  · rw [proceeds] at listed
    cases listed
  · rw [proceeds] at otherwise
    cases otherwise
    rw [added, narrows.append_insertion several]

theorem exists_press_tab_of_reading
    {edit : Edit} (narrows : completer.Narrows)
    (reading : edit.tabState = .reading)
    (several : 2 ≤ (completer edit.buffer.text).length) :
    ∃ next shown,
      edit.press completer Key.tab = .proceed next shown ∧
        next.buffer.text =
          longestCommonPrefix (completer edit.buffer.text) := by
  rcases edit.press_tab_cases completer with
    ⟨waiting, _⟩ | ⟨next, proceeds, _⟩
  · rw [reading] at waiting
    cases waiting
  · exact
      ⟨next, _, proceeds, text_of_press_tab narrows several proceeds⟩

/-- Behind a tab that extended the buffer the next tab rings the bell and the one after it lists. -/
theorem listsNext_of_press_tab
    {edit next : Edit} {shown : Text} (narrows : completer.Narrows)
    (several : 2 ≤ (completer edit.buffer.text).length)
    (proceeds : edit.press completer Key.tab = .proceed next shown)
    (extended : next.buffer.text ≠ edit.buffer.text) :
    completer next.buffer.text = completer edit.buffer.text ∧
      next.ListsNext completer (completer edit.buffer.text) := by
  have nonempty : completer edit.buffer.text ≠ [] :=
    List.ne_nil_of_length_pos (by omega)
  have reached := text_of_press_tab narrows several proceeds
  have kept : completer next.buffer.text = completer edit.buffer.text := by
    rw [reached, narrows.candidates_longestCommonPrefix nonempty]
  have unresolved : Unresolved completer next.buffer.text := by
    rw [unresolved_iff, kept, ← reached, remainder_eq_nil_iff]
    exact ⟨several, fun longer => longer.2 rfl⟩
  have reading : next.tabState = .reading := by
    cases state : next.tabState with
    | reading => rfl
    | awaitingSecondTab =>
        -- Only a tab that leaves the buffer as it is makes the edit wait.
        have exhausted :=
          (unresolved_iff.mp
            ((awaits_iff_of_press proceeds).mp state).2).2
        rw [← reached, remainder_eq_nil_iff] at exhausted
        have begins :=
          reached ▸ narrows.prefix_longestCommonPrefix nonempty
        exact absurd ⟨begins, extended⟩ exhausted
  refine ⟨kept, _, press_tab_of_reading unresolved reading, rfl, ?_⟩
  rw [← kept]
  exact press_tab_of_awaiting unresolved rfl

end Edit

/-- What tabs come to for a completer. -/
structure TabsSettle (completer : Completer) : Prop where
  begins :
    ∀ beginning, completer beginning ≠ [] →
      beginning <+: longestCommonPrefix (completer beginning)
  /-- What the candidates have in common has the same candidates. -/
  fixed :
    ∀ beginning, completer beginning ≠ [] →
      completer (longestCommonPrefix (completer beginning)) =
        completer beginning
  /-- A tab adds a text and shows it, or rings the bell or lists and adds nothing. -/
  appends :
    ∀ edit : Edit,
      (∃ next added,
        edit.press completer Key.tab = .proceed next (insertionShown added) ∧
          next.buffer.text = edit.buffer.text ++ added) ∨
      edit.press completer Key.tab =
        .finish (.listed edit.buffer.text)
          ([Key.carriageReturn, Key.lineFeed] ++
            [' ', ' '].intercalate (completer edit.buffer.text))
  /-- A first tab leaves in the buffer what several candidates have in common. -/
  reaches :
    ∀ edit : Edit, edit.tabState = .reading →
      2 ≤ (completer edit.buffer.text).length →
      ∃ next shown,
        edit.press completer Key.tab = .proceed next shown ∧
          next.buffer.text =
            longestCommonPrefix (completer edit.buffer.text)
  /-- A tab that extends the buffer keeps its candidates, and two more tabs list just these. -/
  keeps :
    ∀ (edit next : Edit) (shown : Text),
      2 ≤ (completer edit.buffer.text).length →
      edit.press completer Key.tab = .proceed next shown →
      next.buffer.text ≠ edit.buffer.text →
      next.buffer.text = longestCommonPrefix (completer edit.buffer.text) ∧
        completer next.buffer.text = completer edit.buffer.text ∧
          next.ListsNext completer (completer edit.buffer.text)
  /-- However many tabs follow a first one, they leave the buffer as it is. -/
  once :
    ∀ (edit : Edit) (count : Nat), edit.tabState = .reading →
      ((Edit.afterTab completer)^[count]
          (edit.afterTab completer)).buffer.text =
        (edit.afterTab completer).buffer.text

end Narrowing

/-- Tabs settle on what the names in a world have in common. -/
theorem tabs_settle (world : World) (names : List Text) :
    TabsSettle (world.candidates names) := by
  have narrows := world.candidates_narrows names
  refine ⟨?_, ?_, ?_, ?_, ?_, ?_⟩
  · intro beginning nonempty
    exact narrows.prefix_longestCommonPrefix nonempty
  · intro beginning nonempty
    exact narrows.candidates_longestCommonPrefix nonempty
  · intro edit
    rcases edit.press_tab_cases (world.candidates names) with
      ⟨_, listed⟩ | ⟨next, proceeds, added⟩
    · exact .inr listed
    · exact .inl ⟨next, _, proceeds, added⟩
  · intro edit reading several
    exact Edit.exists_press_tab_of_reading narrows reading several
  · intro edit next shown several proceeds extended
    exact
      ⟨Edit.text_of_press_tab narrows several proceeds,
        Edit.listsNext_of_press_tab narrows several proceeds extended⟩
  · intro edit count reading
    exact
      ((Edit.settled_of_reading reading).iterate_afterTab narrows count).2

/--
Three names for one letter agree on four letters.  The first tab behind that
letter adds the other three, the second one rings the bell, and the third one
lists the names.
-/
theorem tabs_settle_make :
    let completer : Completer :=
      World.withTool.candidates
        ["maker".toList, "make".toList, "makefile".toList]
    TabsSettle completer ∧
      ∃ next waiting : Edit,
        (Edit.start "m".toList).press completer Key.tab =
            .proceed next "ake".toList ∧
          next.buffer.text = "make".toList ∧
            next.press completer Key.tab =
                .proceed waiting "\x07".toList ∧
              waiting.press completer Key.tab =
                .finish (.listed "make".toList)
                  "\x0d\nmake  makefile  maker".toList := by
  intro completer
  have settles : TabsSettle completer :=
    tabs_settle .withTool ["maker".toList, "make".toList, "makefile".toList]
  have offered :
      completer (Edit.start "m".toList).buffer.text =
        ["make".toList, "makefile".toList, "maker".toList] := by
    show World.withTool.candidates
        ["maker".toList, "make".toList, "makefile".toList] "m".toList = _
    cbv
  have several :
      2 ≤ (completer (Edit.start "m".toList).buffer.text).length := by
    rw [offered]
    decide
  have common :
      longestCommonPrefix
          ["make".toList, "makefile".toList, "maker".toList] =
        "make".toList := by
    decide +kernel
  rcases settles.reaches (.start "m".toList) rfl several with
    ⟨next, shown, pressed, reached⟩
  rw [offered, common] at reached
  have extended :
      next.buffer.text ≠ (Edit.start "m".toList).buffer.text := by
    rw [reached]
    decide
  rcases (settles.keeps _ next shown several pressed extended).2.2 with
    ⟨waiting, rings, same, lists⟩
  rw [offered, reached] at lists
  rcases settles.appends (.start "m".toList) with
    ⟨other, added, adds, longer⟩ | listed
  · rw [pressed] at adds
    cases adds
    rw [reached] at longer
    have rest : added = "ake".toList := (List.cons.inj longer).2.symm
    subst rest
    exact ⟨settles, next, waiting, pressed, reached, rings, lists⟩
  · rw [pressed] at listed
    cases listed

end InteractiveShell
