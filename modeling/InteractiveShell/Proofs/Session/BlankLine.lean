import InteractiveShell.Proofs.Session.Ending
import InteractiveShell.Proofs.Word.Segment

/-!
# Lines without words

A line denotes the blank command if the scanner finds no word in it.  Such a line need not be made
of white space: quotes with nothing between them, a quote that is opened at the end of the line and
a backslash that ends it leave no character to make a word of.  `Wordless` describes these lines
as texts, and `blank_iff_wordless` says that they are the ones that end the session like an empty
line.  For lines without quotes and backslashes this is white space and nothing else.
-/

namespace InteractiveShell

/-- The lines that hold no character of a word. -/
inductive Wordless : Text → Prop where
  | nil : Wordless []
  | blank {character : Char} {rest : Text}
      (white : isBlank character = true) (wordless : Wordless rest) :
      Wordless (character :: rest)
  | single {rest : Text} (wordless : Wordless rest) :
      Wordless ('\'' :: '\'' :: rest)
  | double {rest : Text} (wordless : Wordless rest) :
      Wordless ('"' :: '"' :: rest)
  | openedSingle : Wordless ['\'']
  | openedDouble : Wordless ['"']
  | openedEscape : Wordless ['"', '\\']
  | backslash : Wordless ['\\']

theorem wordless_of_isBlank
    {line : Text} (white : ∀ character ∈ line, isBlank character = true) :
    Wordless line := by
  induction line with
  | nil => exact .nil
  | cons character rest ih =>
      rw [List.forall_mem_cons] at white
      exact .blank white.1 (ih white.2)

/-- The characters with which a quotation starts. -/
def quotations : List Char :=
  ['\'', '"', '\\']

theorem wordless_cons_iff
    {character : Char} (plain : character ∉ quotations) {rest : Text} :
    Wordless (character :: rest) ↔
      isBlank character = true ∧ Wordless rest := by
  constructor
  · intro wordless
    cases wordless with
    | blank white wordless => exact ⟨white, wordless⟩
    | single | double | openedSingle | openedDouble | openedEscape
        | backslash =>
        exact absurd (by decide) plain
  · rintro ⟨white, wordless⟩
    exact .blank white wordless

/-- Without quotes and backslashes nothing but white space leaves a line without words. -/
theorem wordless_iff_of_unquoted
    {line : Text}
    (unquoted : ∀ character ∈ line, character ∉ quotations) :
    Wordless line ↔ ∀ character ∈ line, isBlank character = true := by
  induction line with
  | nil => simp [Wordless.nil]
  | cons character rest ih =>
      rw [List.forall_mem_cons] at unquoted ⊢
      rw [wordless_cons_iff unquoted.1, ih unquoted.2]

/-! ### The segments of a line without words -/

theorem wordOf?_eq_none_iff {segments : List Segment} :
    wordOf? segments = none ↔ ∀ segment ∈ segments, segment.text = [] := by
  rw [wordOf?, ← List.flatMap_eq_nil_iff]
  cases segments.flatMap Segment.text <;> simp

theorem wordsOf_eq_nil_iff {segments : List Segment} :
    wordsOf segments = [] ↔ ∀ segment ∈ segments, segment.text = [] := by
  rw [wordsOf, List.filterMap_eq_nil_iff]
  simp only [wordOf?_eq_none_iff]
  induction segments with
  | nil => simp [List.splitOnP_nil]
  | cons segment rest ih =>
      rw [List.splitOnP_cons_eq_if_modifyHead, List.forall_mem_cons, ← ih]
      by_cases cut : segment = .separator
      · simp [cut, Segment.text]
      · rcases List.exists_cons_of_ne_nil
            (List.splitOnP_ne_nil (fun part => part = .separator) rest)
          with ⟨first, others, pieces⟩
        simp [cut, pieces, and_assoc]

theorem splitWords_eq_nil_iff {line : Text} :
    splitWords line = [] ↔
      ∀ segment ∈ readSegments line, segment.text = [] := by
  have scanned := Scanner.words_behind [] (by simp) line
  rw [Scanner.behind_nil, List.nil_append] at scanned
  rw [splitWords, scanned, wordsOf_eq_nil_iff]

theorem takeWhile_ne_quote_eq_nil_iff {rest : Text} :
    rest.takeWhile (· ≠ '\'') = [] ↔
      rest = [] ∨ ∃ behind, rest = '\'' :: behind := by
  cases rest with
  | nil => simp
  | cons character rest => simp [List.takeWhile_cons]

theorem readDouble_fst_eq_nil_iff {rest : Text} :
    (readDouble rest).1 = [] ↔
      rest = [] ∨ rest = ['\\'] ∨ ∃ behind, rest = '"' :: behind := by
  fun_cases readDouble rest with
  | case1 => simp
  | case2 behind => simp
  | case3 => simp
  | case4 character rest kept =>
      have visible : kept ≠ [] := by
        by_cases escapes : character ∈ escapable <;> simp [kept, escapes]
      simp [visible]
  | case5 character rest notQuote notLone notEscaping =>
      simp only [Prod.map_fst, List.cons_ne_nil, List.cons.injEq, false_or,
        false_iff, not_or, not_and, not_exists]
      exact ⟨notLone, fun _ quote => absurd quote notQuote⟩

/-- The lines whose segments hold no character are the wordless ones. -/
theorem readSegments_empty_iff_wordless {line : Text} :
    (∀ segment ∈ readSegments line, segment.text = []) ↔
      Wordless line := by
  fun_induction readSegments line with
  | case1 => simp [Wordless.nil]
  | case2 => simp [Segment.text, Wordless.backslash]
  | case3 character rest ih =>
      constructor
      · intro empty
        exact absurd (empty _ List.mem_cons_self) (List.cons_ne_nil _ _)
      · intro wordless
        cases wordless with
        | blank white => exact absurd white (by decide)
  | case4 rest ih =>
      rw [List.forall_mem_cons, ih]
      constructor
      · rintro ⟨empty, wordless⟩
        rcases takeWhile_ne_quote_eq_nil_iff.mp empty with
          rfl | ⟨behind, rfl⟩
        · exact .openedSingle
        · exact .single (by simpa using wordless)
      · intro wordless
        cases wordless with
        | blank white => exact absurd white (by decide)
        | single wordless => exact ⟨rfl, by simpa using wordless⟩
        | openedSingle => exact ⟨rfl, .nil⟩
  | case5 rest ih =>
      rw [List.forall_mem_cons, ih]
      constructor
      · rintro ⟨empty, wordless⟩
        rcases readDouble_fst_eq_nil_iff.mp empty with
          rfl | rfl | ⟨behind, rfl⟩
        · exact .openedDouble
        · exact .openedEscape
        · rw [readDouble] at wordless
          exact .double wordless
      · intro wordless
        cases wordless with
        | blank white => exact absurd white (by decide)
        | double wordless =>
            rw [readDouble]
            exact ⟨rfl, wordless⟩
        | openedDouble => exact ⟨rfl, .nil⟩
        | openedEscape => exact ⟨rfl, .nil⟩
  | case6 character rest notLone notEscaping notSingle notDouble ih =>
      have notBackslash : character ≠ '\\' := by
        intro backslash
        cases rest with
        | nil => exact notLone backslash rfl
        | cons next rest => exact notEscaping next rest backslash rfl
      have plain : character ∉ quotations := by
        simp only [quotations, List.mem_cons, List.not_mem_nil, or_false,
          not_or]
        exact ⟨notSingle, notDouble, notBackslash⟩
      rw [List.forall_mem_cons, ih, wordless_cons_iff plain]
      by_cases white : isBlank character = true
      · simp [white, Segment.text]
      · simp [white, Segment.text]

theorem splitWords_eq_nil_iff_wordless {line : Text} :
    splitWords line = [] ↔ Wordless line := by
  rw [splitWords_eq_nil_iff, readSegments_empty_iff_wordless]

/-! ### The lines that end a session like an empty one -/

theorem Command.exists_blank_iff {line : Text} :
    (∃ command, ofLine line = .ok command ∧ command.isBlank = true) ↔
      splitWords line = [] := by
  constructor
  · rintro ⟨command, parsed, blank⟩
    exact (isBlank_iff_splitWords_eq_nil parsed).mp blank
  · intro none
    refine ⟨.blank, ?_, rfl⟩
    rw [ofLine, none]
    rfl

/--
The lines that denote the blank command are the wordless ones.  White space is
among them, and for a line without quotes and backslashes it is all there is.
No other line ends the session unless its command is `exit`.
-/
theorem blank_iff_wordless
    (launcher : Launcher) (world : World) (line : Text) :
    ((∃ command,
        Command.ofLine line = .ok command ∧ command.isBlank = true) ↔
      Wordless line) ∧
    ((∀ character ∈ line, isBlank character = true) → Wordless line) ∧
    ((∀ character ∈ line, character ∉ quotations) →
      Wordless line → ∀ character ∈ line, isBlank character = true) ∧
    (¬ Wordless line → ∀ code,
      (executeLine launcher world line).1 = .ok (.exit code) →
        ∃ command, Command.ofLine line = .ok command ∧
          command.arguments.head? = some Builtin.exit.name) := by
  refine ⟨?_, wordless_of_isBlank, ?_, ?_⟩
  · rw [Command.exists_blank_iff, splitWords_eq_nil_iff_wordless]
  · intro unquoted wordless
    exact (wordless_iff_of_unquoted unquoted).mp wordless
  · intro worded code exits
    rcases executeLine_eq_exit_iff.mp exits with
      ⟨none, _⟩ | ⟨command, rest, parsed, _, named, _⟩
    · exact absurd (splitWords_eq_nil_iff_wordless.mp none) worded
    · exact ⟨command, parsed, by rw [named, List.head?_cons]⟩

/-- Two quotes are no white space, and they end the session. -/
theorem not_blank_only_if_white :
    ¬ ∀ line : Text,
      ((∃ command,
          Command.ofLine line = .ok command ∧ command.isBlank = true) ↔
        ∀ character ∈ line, isBlank character = true) := by
  intro claimed
  have white := (claimed "''".toList).mp ⟨.blank, rfl, rfl⟩
  exact absurd (white '\'' List.mem_cons_self) (by decide)

end InteractiveShell
