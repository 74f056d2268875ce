import InteractiveShell.Proofs.Command.Rendering

/-!
# The first operator

Among the words of a line the first operator counts and no other one.  `Command.Extracted` says what
becomes of the words in each of the three cases there are: none of them is an operator, the first
operator is the last word, or a target follows it.  The target and the words behind it are taken as
they are, operators or not.

`Command.gather` goes through the words once, with the arguments and the redirection found so far.
It takes the word behind an operator out of the words still to come, and it no longer looks for
operators once it has a redirection.  It finds the same command.
-/

namespace InteractiveShell

/-- A bare word that spells an operator asks for the redirection of a stream. -/
def Word.Asks (word : Word) (stream : Stream) (mode : WriteMode) : Prop :=
  word.quoted = false ∧ (word.text, stream, mode) ∈ Redirection.operators

/-- A word that asks for no redirection. -/
def Word.IsData (word : Word) : Prop :=
  ∀ stream mode, ¬ word.Asks stream mode

theorem Word.operator?_eq_some_iff
    {word : Word} {stream : Stream} {mode : WriteMode} :
    word.operator? = some (stream, mode) ↔ word.Asks stream mode := by
  rcases word with ⟨text, quoted⟩
  constructor
  · intro found
    cases quoted with
    | true => cases found
    | false =>
        refine ⟨rfl, ?_⟩
        rcases List.lookup_eq_some_iff.mp found with
          ⟨before, after, split, _⟩
        rw [split]
        simp
  · rintro ⟨bare, spelled⟩
    cases bare
    exact operator?_of_mem_operators spelled

theorem Word.operator?_eq_none_iff {word : Word} :
    word.operator? = none ↔ word.IsData := by
  rw [Option.eq_none_iff_forall_ne_some]
  constructor
  · intro none stream mode asks
    exact none (stream, mode) (operator?_eq_some_iff.mpr asks)
  · rintro data ⟨stream, mode⟩ found
    exact data stream mode (operator?_eq_some_iff.mp found)

namespace Command

/-- What becomes of some words. -/
inductive Extracted : List Word → Except ShellError Command → Prop where
  | plain {words : List Word} (data : ∀ word ∈ words, word.IsData) :
      Extracted words (.ok ⟨words.map Word.text, none⟩)
  | untargeted {before : List Word} {operator : Word}
      {stream : Stream} {mode : WriteMode}
      (data : ∀ word ∈ before, word.IsData)
      (asks : operator.Asks stream mode) :
      Extracted (before ++ [operator])
        (.error (.missingRedirectTarget operator.text))
  | redirected {before after : List Word} {operator target : Word}
      {stream : Stream} {mode : WriteMode}
      (data : ∀ word ∈ before, word.IsData)
      (asks : operator.Asks stream mode) :
      Extracted (before ++ operator :: target :: after)
        (.ok
          ⟨before.map Word.text ++ after.map Word.text,
            some ⟨stream, mode, target.text⟩⟩)

/--
The command made of some words, behind arguments and perhaps a redirection that
were found before them.
-/
def gather (arguments : List Text) (redirection : Option Redirection) :
    List Word → Except ShellError Command
  | [] => .ok ⟨arguments, redirection⟩
  | word :: rest =>
      match redirection, word.operator? with
      | none, some (stream, mode) =>
          match rest with
          | [] => .error (.missingRedirectTarget word.text)
          | target :: later =>
              gather arguments (some ⟨stream, mode, target.text⟩) later
      | _, _ => gather (arguments ++ [word.text]) redirection rest

/-- Behind a redirection all words are arguments. -/
theorem gather_some
    (arguments : List Text) (redirection : Redirection) (words : List Word) :
    gather arguments (some redirection) words =
      .ok ⟨arguments ++ words.map Word.text, some redirection⟩ := by
  induction words generalizing arguments with
  | nil => simp [gather]
  | cons word words ih => simp [gather, ih]

theorem gather_cons_of_isData
    {word : Word} (data : word.IsData) (arguments : List Text)
    (rest : List Word) :
    gather arguments none (word :: rest) =
      gather (arguments ++ [word.text]) none rest := by
  simp [gather, Word.operator?_eq_none_iff.mpr data]

/-- An operator takes the word behind it with it. -/
theorem gather_cons_of_asks
    {word : Word} {stream : Stream} {mode : WriteMode}
    (asks : word.Asks stream mode) (arguments : List Text)
    (rest : List Word) :
    gather arguments none (word :: rest) =
      match rest with
      | [] => .error (.missingRedirectTarget word.text)
      | target :: later =>
          .ok
            ⟨arguments ++ later.map Word.text,
              some ⟨stream, mode, target.text⟩⟩ := by
  have found := Word.operator?_eq_some_iff.mpr asks
  unfold gather
  rw [found]
  cases rest with
  | nil => rfl
  | cons target later => exact gather_some _ _ _

theorem gather_append_of_isData
    {before : List Word} (data : ∀ word ∈ before, word.IsData)
    (arguments : List Text) (rest : List Word) :
    gather arguments none (before ++ rest) =
      gather (arguments ++ before.map Word.text) none rest := by
  induction before generalizing arguments with
  | nil => simp
  | cons word before ih =>
      rw [List.forall_mem_cons] at data
      rw [List.cons_append, gather_cons_of_isData data.1, ih data.2]
      simp

/-- One pass over the words finds their command. -/
theorem gather_eq_map_collect (arguments : List Text) (words : List Word) :
    gather arguments none words =
      (collect words).map fun command =>
        { command with arguments := arguments ++ command.arguments } := by
  induction words generalizing arguments with
  | nil => simp [gather, collect, Except.map]
  | cons word rest ih =>
      rcases found : word.operator? with _ | ⟨stream, mode⟩
      · rw [gather_cons_of_isData (Word.operator?_eq_none_iff.mp found), ih,
          collect, found]
        cases collect rest with
        | error cause => rfl
        | ok command => simp [Except.map, addArgument]
      · rw [gather_cons_of_asks (Word.operator?_eq_some_iff.mp found),
          collect, found]
        cases rest <;> rfl

theorem gather_nil_none (words : List Word) :
    gather [] none words = collect words := by
  rw [gather_eq_map_collect]
  cases collect words <;> rfl

/-- In each of the cases one pass over the words finds what becomes of them. -/
theorem Extracted.gather_eq
    {words : List Word} {result : Except ShellError Command}
    (extracted : Extracted words result) :
    gather [] none words = result := by
  cases extracted with
  | plain data =>
      have passed := gather_append_of_isData data [] []
      rwa [List.append_nil, List.nil_append] at passed
  | untargeted data asks =>
      rw [gather_append_of_isData data, gather_cons_of_asks asks]
  | redirected data asks =>
      rw [gather_append_of_isData data, gather_cons_of_asks asks,
        List.nil_append]

/-- A data word in front changes nothing about which case arises. -/
theorem Extracted.exists_cons
    {words : List Word} {result : Except ShellError Command}
    (extracted : Extracted words result) {word : Word}
    (data : word.IsData) :
    ∃ extended, Extracted (word :: words) extended := by
  have longer {before : List Word}
      (others : ∀ other ∈ before, other.IsData) :
      ∀ other ∈ word :: before, other.IsData :=
    List.forall_mem_cons.mpr ⟨data, others⟩
  cases extracted with
  | plain others => exact ⟨_, .plain (longer others)⟩
  | untargeted others asks => exact ⟨_, .untargeted (longer others) asks⟩
  | redirected others asks => exact ⟨_, .redirected (longer others) asks⟩

/-- One of the cases always arises. -/
theorem exists_extracted (words : List Word) :
    ∃ result, Extracted words result := by
  have none : ∀ word ∈ ([] : List Word), word.IsData := by simp
  induction words with
  | nil => exact ⟨_, .plain none⟩
  | cons word rest ih =>
      rcases found : word.operator? with _ | ⟨stream, mode⟩
      · rcases ih with ⟨result, extracted⟩
        exact
          extracted.exists_cons (Word.operator?_eq_none_iff.mp found)
      · have asks := Word.operator?_eq_some_iff.mp found
        cases rest with
        | nil => exact ⟨_, .untargeted none asks⟩
        | cons target later => exact ⟨_, .redirected none asks⟩

/--
The words of a line lose their first operator and its target, and keep everything
else in order; a first operator without a target is an error.
-/
theorem ofWords_eq_iff_extracted
    {words : List Word} (present : words ≠ [])
    {result : Except ShellError Command} :
    (ofWords words = result ↔ Extracted words result) ∧
      gather [] none words = ofWords words := by
  have collected : ofWords words = collect words :=
    if_neg (by simpa using present)
  rw [collected, ← gather_nil_none]
  refine ⟨⟨?_, Extracted.gather_eq⟩, rfl⟩
  rintro rfl
  rcases exists_extracted words with ⟨found, extracted⟩
  rwa [extracted.gather_eq]

/-- An operator may be the target of another one, and one behind the target is an argument. -/
theorem ofWords_eq_iff_extracted_adjacent :
    ofWords
        [⟨">".toList, true⟩, ⟨"2>".toList, false⟩, ⟨">>".toList, false⟩,
          ⟨"1>".toList, false⟩] =
      .ok
        ⟨[">".toList, "1>".toList],
          some ⟨.stderr, .truncate, ">>".toList⟩⟩ := by
  have data : ∀ word ∈ [(⟨">".toList, true⟩ : Word)], word.IsData := by
    rintro word member stream mode ⟨bare, _⟩
    rw [List.mem_singleton.mp member] at bare
    cases bare
  have asks : Word.Asks ⟨"2>".toList, false⟩ .stderr .truncate :=
    ⟨rfl, by decide⟩
  exact
    (ofWords_eq_iff_extracted (List.cons_ne_nil _ _)).1.mpr
      (.redirected data asks)

end Command

end InteractiveShell
