import InteractiveShell.Proofs.Command.Rendering

/-!
# Quoted data and the structure of a line

Where a line holds quoted data, the words around the data and the command that the line denotes do
not depend on what the data is.  `WordFrame` is a list of words with a place for the data within one
of them, and `CommandFrame` is the outcome of a line with a place for one text.  Behind a text that
leaves the scanner outside quotes, and in front of any text, there is one frame of each kind that
every content fits into, whatever blanks, operators, quotes and backslashes it has.
-/

namespace InteractiveShell

/-- Some words with a place left within one of them, which is quoted. -/
structure WordFrame where
  earlier : List Word
  /-- The part of the word in front of the place. -/
  left : Text
  /-- The part of the word behind the place. -/
  right : Text
  later : List Word

namespace WordFrame

/-- The text of the word that holds a content. -/
def around (frame : WordFrame) (content : Text) : Text :=
  frame.left ++ content ++ frame.right

/-- The words with a content in its place. -/
def fill (frame : WordFrame) (content : Text) : List Word :=
  frame.earlier ++ ⟨frame.around content, true⟩ :: frame.later

end WordFrame

/-- What a line denotes, with a place left for one text. -/
inductive CommandFrame where
  | failure (error : ShellError)
  /-- The place is an argument. -/
  | argument (before after : List Text) (redirection : Option Redirection)
  /-- The place is the target of the redirection. -/
  | target (arguments : List Text) (stream : Stream) (mode : WriteMode)

/-- What a line denotes with a text in its place. -/
def CommandFrame.fill (text : Text) : CommandFrame → Except ShellError Command
  | failure error => .error error
  | argument before after redirection =>
      .ok ⟨before ++ text :: after, redirection⟩
  | target arguments stream mode =>
      .ok ⟨arguments, some ⟨stream, mode, text⟩⟩

/-- A text behind which a scanner stands outside quotes, no escape pending. -/
def EndsBare (text : Text) : Prop :=
  (text.foldl Scanner.advance .fresh).quoting = .bare

/-! ### The words around the data -/

namespace Scanner

/-- The words that end within a text. -/
def ended (scanner : Scanner) : Text → List Word
  | [] => []
  | character :: rest =>
      (if scanner.separates character then scanner.word?.toList else []) ++
        (scanner.advance character).ended rest

theorem words_append (scanner : Scanner) (front rest : Text) :
    scanner.words (front ++ rest) =
      scanner.ended front ++ (front.foldl advance scanner).words rest := by
  induction front generalizing scanner with
  | nil => rfl
  | cons character front ih =>
      rw [List.cons_append, words, ih, ended, List.foldl_cons,
        List.append_assoc]
      split
      · cases scanner.word? <;> rfl
      · rfl

/-- A scanner outside quotes is behind some segments. -/
theorem exists_eq_behind
    {scanner : Scanner} (bare : scanner.quoting = .bare) :
    ∃ segments, scanner = behind segments := by
  rcases scanner with ⟨quoting, collected, quoted⟩
  cases bare
  cases quoted with
  | true =>
      refine ⟨[.single collected.reverse], ?_⟩
      simp [behind, Segment.text, Segment.isPlain]
  | false =>
      refine ⟨collected.reverse.map .plain, ?_⟩
      rw [behind, Segment.flatMap_text_map_plain]
      simp [Segment.isPlain]

end Scanner

/-- Only the first word depends on what a quoted segment in front of others holds. -/
theorem exists_wordsOf_single_cons (segments : List Segment) :
    ∃ right later, ∀ content, content ≠ [] →
      wordsOf (.single content :: segments) =
        ⟨content ++ right, true⟩ :: later := by
  have first (front : List Segment) {content : Text}
      (nonempty : content ≠ []) :
      wordOf? (.single content :: front) =
        some ⟨content ++ front.flatMap Segment.text, true⟩ := by
    rcases List.exists_cons_of_ne_nil nonempty with ⟨character, rest, rfl⟩
    rfl
  by_cases cut : .separator ∈ segments
  · rcases List.eq_append_cons_of_mem cut with ⟨front, later, rfl, joined⟩
    refine ⟨front.flatMap Segment.text, wordsOf later, ?_⟩
    intro content nonempty
    rw [← List.cons_append, wordsOf_append_separator (by simp [joined]),
      first front nonempty]
    rfl
  · refine ⟨segments.flatMap Segment.text, [], ?_⟩
    intro content nonempty
    rw [wordsOf_of_separator_notMem (by simp [cut]),
      first segments nonempty]
    rfl

/-- Quoted data leaves a scanner outside quotes behind one quoted segment that holds it. -/
theorem WrittenSegment.words_eq
    {content written : Text} (segment : WrittenSegment content written)
    (nonempty : content ≠ []) (earlier : List Segment) (rest : Text) :
    (Scanner.behind earlier).words (written ++ rest) =
      wordsOf
        (.single (earlier.flatMap Segment.text ++ content) ::
          readSegments rest) := by
  rcases segment.exists_passed with ⟨segments, passed, texts, quoted⟩
  have marked :
      ((earlier ++ segments).any fun part => !part.isPlain) = true := by
    cases segments with
    | nil => exact absurd texts.symm nonempty
    | cons part others => simp [quoted part List.mem_cons_self]
  have joined :
      Scanner.behind (earlier ++ segments) =
        Scanner.behind
          [.single (earlier.flatMap Segment.text ++ content)] := by
    rw [Scanner.behind, marked, List.flatMap_append, texts]
    simp [Scanner.behind, Segment.text, Segment.isPlain]
  rw [passed, joined, Scanner.words_behind _ (by simp)]
  rfl

/-- The words around quoted data are the same whatever the data is. -/
theorem exists_wordFrame
    {front : Text} (outside : EndsBare front) (back : Text) :
    ∃ frame : WordFrame, ∀ content written,
      content ≠ [] → WrittenSegment content written →
        splitWords (front ++ written ++ back) = frame.fill content := by
  rcases Scanner.exists_eq_behind outside with ⟨earlier, reached⟩
  rcases exists_wordsOf_single_cons (readSegments back) with
    ⟨right, later, filled⟩
  refine
    ⟨⟨Scanner.fresh.ended front, earlier.flatMap Segment.text, right, later⟩,
      ?_⟩
  intro content written nonempty segment
  rw [splitWords, List.append_assoc, Scanner.words_append, reached,
    segment.words_eq nonempty, filled _ (by simp [nonempty])]
  rfl

/-! ### The command around the data -/

namespace Command

/-- What some words denote depends on the text of a quoted word in one place only. -/
theorem exists_collect_eq_fill (earlier later : List Word) :
    ∃ frame : CommandFrame, ∀ text,
      collect (earlier ++ ⟨text, true⟩ :: later) = frame.fill text := by
  induction earlier with
  | nil =>
      have taken (text : Text) :
          collect (⟨text, true⟩ :: later) =
            (collect later).map (addArgument text) :=
        rfl
      cases others : collect later with
      | error cause =>
          refine ⟨.failure cause, fun text => ?_⟩
          rw [List.nil_append, taken, others]
          rfl
      | ok command =>
          refine
            ⟨.argument [] command.arguments command.redirection,
              fun text => ?_⟩
          rw [List.nil_append, taken, others]
          rfl
  | cons word earlier ih =>
      rcases found : word.operator? with _ | ⟨stream, mode⟩
      · rcases ih with ⟨frame, filled⟩
        have taken (text : Text) :
            collect (word :: earlier ++ ⟨text, true⟩ :: later) =
              (frame.fill text).map (addArgument word.text) := by
          rw [← filled, List.cons_append, collect, found]
        cases frame with
        | failure cause => exact ⟨.failure cause, taken⟩
        | argument before after redirection =>
            exact ⟨.argument (word.text :: before) after redirection, taken⟩
        | target arguments stream mode =>
            exact ⟨.target (word.text :: arguments) stream mode, taken⟩
      · cases earlier with
        | nil =>
            refine
              ⟨.target (later.map Word.text) stream mode, fun text => ?_⟩
            rw [List.cons_append, collect, found]
            rfl
        | cons target earlier =>
            refine
              ⟨.argument (earlier.map Word.text) (later.map Word.text)
                (some ⟨stream, mode, target.text⟩), fun text => ?_⟩
            rw [List.cons_append, collect, found]
            simp [CommandFrame.fill]

end Command

/--
Between a text that ends outside quotes and any other text, quoted data changes
neither the other words nor their number, and in the command nothing but the one
argument or target that holds it; where the line is an error, it is the same one
for all data.
-/
theorem quoted_keeps_structure
    {front : Text} (outside : EndsBare front) (back : Text) :
    ∃ (words : WordFrame) (command : CommandFrame),
      ∀ content written, content ≠ [] → WrittenSegment content written →
        splitWords (front ++ written ++ back) = words.fill content ∧
          Command.ofLine (front ++ written ++ back) =
            command.fill (words.around content) := by
  rcases exists_wordFrame outside back with ⟨words, split⟩
  rcases Command.exists_collect_eq_fill words.earlier words.later with
    ⟨command, collected⟩
  refine ⟨words, command, ?_⟩
  intro content written nonempty segment
  have filled := split content written nonempty segment
  refine ⟨filled, ?_⟩
  rw [Command.ofLine, filled, Command.ofWords,
    if_neg (by simp [WordFrame.fill])]
  exact collected (words.around content)

/-- Two contents of a target, the second of which would be an operator if it were bare. -/
theorem quoted_keeps_structure_target :
    EndsBare "cat > \\p\"r\"e".toList ∧
      ∃ (words : WordFrame) (command : CommandFrame),
        (splitWords
              ("cat > \\p\"r\"e".toList ++ "'a b'".toList ++ "fix 2> c".toList) =
            words.fill "a b".toList ∧
          Command.ofLine
              ("cat > \\p\"r\"e".toList ++ "'a b'".toList ++ "fix 2> c".toList) =
            command.fill (words.around "a b".toList)) ∧
        (splitWords
              ("cat > \\p\"r\"e".toList ++ "\" >> '\"".toList ++
                "fix 2> c".toList) =
            words.fill " >> '".toList ∧
          Command.ofLine
              ("cat > \\p\"r\"e".toList ++ "\" >> '\"".toList ++
                "fix 2> c".toList) =
            command.fill (words.around " >> '".toList)) := by
  have outside : EndsBare "cat > \\p\"r\"e".toList := by
    unfold EndsBare
    decide
  have first : WrittenSegment "a b".toList "'a b'".toList :=
    .single (by decide)
  have second : WrittenSegment " >> '".toList "\" >> '\"".toList :=
    .double " >> '".toList
  rcases quoted_keeps_structure outside "fix 2> c".toList with
    ⟨words, command, filled⟩
  exact
    ⟨outside, words, command, filled _ _ (by decide) first,
      filled _ _ (by decide) second⟩

end InteractiveShell
