import InteractiveShell.Command
import InteractiveShell.Proofs.Word.Segment
import Mathlib.Data.List.Forall2

/-!
# Rendering commands

A command can be written as a line in many ways.  Each argument and the target of a redirection are
written as data: between quotes of either kind, behind backslashes, or in pieces of all three.  The
operator of a redirection is written bare, in any of its spellings, and stands with its target in
front of, between or behind the arguments.  Any run of blanks separates two words.

`Command.Rendered` is the relation between commands and the lines written so.  Every such line
denotes the command that it was written for, whatever characters the arguments hold.
-/

namespace InteractiveShell

/-- How a character is written between double quotes. -/
def guarded (character : Char) : Text :=
  if character ∈ escapable then ['\\', character] else [character]

/-- The ways to write a text as one segment of data. -/
inductive WrittenSegment : Text → Text → Prop where
  | single {content : Text} (free : '\'' ∉ content) :
      WrittenSegment content ('\'' :: content ++ ['\''])
  | double (content : Text) :
      WrittenSegment content ('"' :: content.flatMap guarded ++ ['"'])
  | escaped (content : Text) :
      WrittenSegment content
        (content.flatMap fun character => ['\\', character])

/-- The ways to write a text as one or more segments of data. -/
inductive WrittenWord : Text → Text → Prop where
  | segment {content written : Text}
      (segment : WrittenSegment content written) :
      WrittenWord content written
  | cons {content written text rest : Text}
      (segment : WrittenSegment content written)
      (later : WrittenWord text rest) :
      WrittenWord (content ++ text) (written ++ rest)

/-- The lines in which given words stand one behind the other, blanks between them. -/
inductive Separated : List Text → Text → Prop where
  | nil : Separated [] []
  | singleton (word : Text) : Separated [word] word
  | cons {word gap next line : Text} {words : List Text}
      (nonempty : gap ≠ [])
      (blank : ∀ character ∈ gap, isBlank character = true)
      (later : Separated (next :: words) line) :
      Separated (word :: next :: words) (word ++ gap ++ line)

/-- The lines in which a command is written. -/
inductive Command.Rendered : Command → Text → Prop where
  | plain {arguments words : List Text} {line : Text}
      (written : List.Forall₂ WrittenWord arguments words)
      (separated : Separated words line) :
      Command.Rendered ⟨arguments, none⟩ line
  | redirected {before after wordsBefore wordsAfter : List Text}
      {spelling target writtenTarget line : Text}
      {stream : Stream} {mode : WriteMode}
      (operator : (spelling, stream, mode) ∈ Redirection.operators)
      (writtenBefore : List.Forall₂ WrittenWord before wordsBefore)
      (written : WrittenWord target writtenTarget)
      (writtenAfter : List.Forall₂ WrittenWord after wordsAfter)
      (separated :
        Separated
          (wordsBefore ++ spelling :: writtenTarget :: wordsAfter) line) :
      Command.Rendered
        ⟨before ++ after, some ⟨stream, mode, target⟩⟩ line

/-! ### What a scanner makes of a written word -/

/-- A text that a scanner outside quotes passes as some segments of a word. -/
def Passed (written : Text) (segments : List Segment) : Prop :=
  ∀ (earlier : List Segment) (rest : Text),
    (Scanner.behind earlier).words (written ++ rest) =
      (Scanner.behind (earlier ++ segments)).words rest

theorem Passed.nil : Passed [] [] := by
  intro earlier rest
  simp

theorem Passed.append
    {first second : Text} {firstSegments secondSegments : List Segment}
    (passedFirst : Passed first firstSegments)
    (passedSecond : Passed second secondSegments) :
    Passed (first ++ second) (firstSegments ++ secondSegments) := by
  intro earlier rest
  rw [List.append_assoc, passedFirst, passedSecond, List.append_assoc]

theorem Passed.single {content : Text} (free : '\'' ∉ content) :
    Passed ('\'' :: content ++ ['\'']) [.single content] := by
  intro earlier rest
  have inside : ∀ character ∈ content, decide (character ≠ '\'') = true := by
    intro character member
    simpa using ne_of_mem_of_not_mem member free
  have taken :
      (content ++ '\'' :: rest).takeWhile (· ≠ '\'') = content := by
    rw [List.takeWhile_append_of_pos inside]
    simp
  have dropped :
      (content ++ '\'' :: rest).dropWhile (· ≠ '\'') = '\'' :: rest := by
    rw [List.dropWhile_append_of_pos inside]
    simp
  have scanned :=
    Scanner.words_single earlier (content ++ '\'' :: rest)
  rw [taken, dropped] at scanned
  simpa using scanned

theorem readDouble_flatMap_guarded (content rest : Text) :
    readDouble (content.flatMap guarded ++ '"' :: rest) =
      (content, rest) := by
  induction content with
  | nil => rw [List.flatMap_nil, List.nil_append, readDouble]
  | cons character content ih =>
      rw [List.flatMap_cons, List.append_assoc]
      by_cases escapes : character ∈ escapable
      · rw [guarded, if_pos escapes]
        simp [readDouble, escapes, ih]
      · have notQuote : character ≠ '"' := by
          rintro rfl
          exact escapes (by decide)
        have notBackslash : character ≠ '\\' := by
          rintro rfl
          exact escapes (by decide)
        rw [guarded, if_neg escapes, List.singleton_append,
          readDouble_cons notQuote notBackslash, ih]
        rfl

theorem Passed.double (content : Text) :
    Passed ('"' :: content.flatMap guarded ++ ['"'])
      [.double content] := by
  intro earlier rest
  have scanned :=
    Scanner.words_double earlier
      (content.flatMap guarded ++ '"' :: rest)
  rw [readDouble_flatMap_guarded] at scanned
  simpa using scanned

theorem Passed.escaped (content : Text) :
    Passed (content.flatMap fun character => ['\\', character])
      (content.map Segment.escaped) := by
  induction content with
  | nil => exact Passed.nil
  | cons character content ih =>
      have first : Passed ['\\', character] [.escaped character] := by
        intro earlier rest
        exact Scanner.words_escaped earlier character rest
      exact first.append ih

theorem Passed.plain
    {written : Text}
    (bare :
      ∀ character ∈ written,
        character ≠ '\\' ∧ character ≠ '\'' ∧ character ≠ '"' ∧
          isBlank character = false) :
    Passed written (written.map Segment.plain) := by
  induction written with
  | nil => exact Passed.nil
  | cons character written ih =>
      have first : Passed [character] [.plain character] := by
        intro earlier rest
        rcases bare character (by simp) with
          ⟨notBackslash, notSingle, notDouble, notBlank⟩
        exact
          Scanner.words_plain notBackslash notSingle notDouble notBlank
            earlier rest
      exact
        first.append
          (ih fun next member => bare next (by simp [member]))

/-- A written segment of data is passed as segments that are not plain. -/
theorem WrittenSegment.exists_passed
    {content written : Text}
    (segment : WrittenSegment content written) :
    ∃ segments : List Segment,
      Passed written segments ∧
        segments.flatMap Segment.text = content ∧
        ∀ part ∈ segments, part.isPlain = false := by
  cases segment with
  | single free =>
      exact ⟨_, Passed.single free, by simp [Segment.text],
        by simp [Segment.isPlain]⟩
  | double =>
      exact ⟨_, Passed.double content, by simp [Segment.text],
        by simp [Segment.isPlain]⟩
  | escaped =>
      refine ⟨_, Passed.escaped content, ?_, by simp [Segment.isPlain]⟩
      induction content with
      | nil => rfl
      | cons character content ih =>
          simpa [Segment.text] using ih

theorem WrittenWord.exists_passed
    {text written : Text} (word : WrittenWord text written) :
    ∃ segments : List Segment,
      Passed written segments ∧
        segments.flatMap Segment.text = text ∧
        ∀ part ∈ segments, part.isPlain = false := by
  induction word with
  | segment segment => exact segment.exists_passed
  | cons segment later ih =>
      rcases segment.exists_passed with
        ⟨segments, passed, texts, quoted⟩
      rcases ih with ⟨laterSegments, laterPassed, laterTexts, laterQuoted⟩
      refine
        ⟨segments ++ laterSegments, passed.append laterPassed, ?_, ?_⟩
      · rw [List.flatMap_append, texts, laterTexts]
      · intro part member
        rcases List.mem_append.mp member with first | second
        · exact quoted part first
        · exact laterQuoted part second

/-- A text from which a scanner makes exactly one word. -/
def Makes (written : Text) (word : Word) : Prop :=
  ∃ segments : List Segment,
    Passed written segments ∧ wordOf? segments = some word

/-- Data is a quoted word. -/
theorem WrittenWord.makes
    {text written : Text} (word : WrittenWord text written)
    (nonempty : text ≠ []) :
    Makes written ⟨text, true⟩ := by
  rcases word.exists_passed with ⟨segments, passed, rfl, quoted⟩
  refine ⟨segments, passed, ?_⟩
  have marked :
      (segments.any fun segment => !segment.isPlain) = true := by
    cases segments with
    | nil => exact absurd rfl nonempty
    | cons segment segments =>
        simp [quoted segment (by simp)]
  unfold wordOf?
  rw [marked]
  cases found : segments.flatMap Segment.text with
  | nil => exact absurd found nonempty
  | cons first rest => rfl

/-- A bare operator is a word that is not quoted. -/
theorem makes_of_mem_operators
    {spelling : Text} {effect : Stream × WriteMode}
    (operator : (spelling, effect) ∈ Redirection.operators) :
    Makes spelling ⟨spelling, false⟩ := by
  have bare :
      ∀ entry ∈ Redirection.operators,
        entry.1.all fun character =>
          character ≠ '\\' ∧ character ≠ '\'' ∧ character ≠ '"' ∧
            isBlank character = false := by
    decide
  have plain := List.all_eq_true.mp (bare (spelling, effect) operator)
  have found :
      ∀ entry ∈ Redirection.operators,
        wordOf? (entry.1.map Segment.plain) =
          some ⟨entry.1, false⟩ := by
    decide
  exact
    ⟨spelling.map Segment.plain,
      Passed.plain fun character member =>
        of_decide_eq_true (plain character member),
      found (spelling, effect) operator⟩

theorem operator?_of_mem_operators
    {spelling : Text} {effect : Stream × WriteMode}
    (operator : (spelling, effect) ∈ Redirection.operators) :
    Word.operator? ⟨spelling, false⟩ = some effect := by
  have found :
      ∀ entry ∈ Redirection.operators,
        Word.operator? ⟨entry.1, false⟩ = some entry.2 := by
    decide
  exact found (spelling, effect) operator

/-! ### What a scanner makes of a written line -/

theorem words_blanks
    {gap : Text} (blank : ∀ character ∈ gap, isBlank character = true)
    (rest : Text) :
    Scanner.fresh.words (gap ++ rest) = Scanner.fresh.words rest := by
  induction gap with
  | nil => rfl
  | cons character gap ih =>
      have skipped :=
        Scanner.words_separator (blank character (by simp)) [] (gap ++ rest)
      rw [Scanner.behind_nil] at skipped
      rw [List.cons_append, skipped,
        ih fun next member => blank next (by simp [member])]
      rfl

/-- One word is found for each written word. -/
theorem splitWords_of_separated
    {written : List Text} {line : Text} {words : List Word}
    (separated : Separated written line)
    (made : List.Forall₂ Makes written words) :
    splitWords line = words := by
  induction separated generalizing words with
  | nil =>
      cases made
      rfl
  | singleton text =>
      cases made with
      | cons first none =>
          cases none
          rcases first with ⟨segments, passed, found⟩
          have scanned := passed [] []
          rw [List.append_nil, Scanner.behind_nil, List.nil_append,
            Scanner.words, Scanner.word?_behind, found] at scanned
          exact scanned
  | @cons text gap next line texts nonempty blank later ih =>
      cases made with
      | cons first others =>
          rcases first with ⟨segments, passed, found⟩
          cases gap with
          | nil => exact absurd rfl nonempty
          | cons character gap =>
              have skipped :
                  Scanner.fresh.words (gap ++ line) =
                    Scanner.fresh.words line :=
                words_blanks
                  (fun other member => blank other (by simp [member])) line
              have scanned := passed [] (character :: (gap ++ line))
              rw [Scanner.behind_nil, List.nil_append,
                Scanner.words_separator (blank character (by simp)),
                found, skipped] at scanned
              have laterWords := ih others
              rw [splitWords] at laterWords ⊢
              rw [List.append_assoc, List.cons_append, scanned, laterWords]
              rfl

/-! ### What becomes of the words -/

namespace Command

theorem collect_map_data (texts : List Text) :
    collect (texts.map fun text => ⟨text, true⟩) = .ok ⟨texts, none⟩ := by
  induction texts with
  | nil => rfl
  | cons text texts ih =>
      simp only [List.map_cons, collect, Word.operator?, if_true, ih]
      rfl

/-- Data in front of an operator does not keep it from being found. -/
theorem collect_map_data_append
    (before : List Text)
    {operator : Word} {stream : Stream} {mode : WriteMode}
    (found : operator.operator? = some (stream, mode))
    (target : Text) (after : List Text) :
    collect
        ((before.map fun text => ⟨text, true⟩) ++
          operator :: ⟨target, true⟩ ::
            after.map fun text => ⟨text, true⟩) =
      .ok ⟨before ++ after, some ⟨stream, mode, target⟩⟩ := by
  induction before with
  | nil => simp [collect, found, Function.comp_def]
  | cons text before ih =>
      simp only [List.map_cons, List.cons_append, collect, Word.operator?,
        if_true]
      rw [ih]
      rfl

end Command

theorem forall₂_makes
    {texts written : List Text}
    (data : List.Forall₂ WrittenWord texts written)
    (nonempty : ∀ text ∈ texts, text ≠ []) :
    List.Forall₂ Makes written (texts.map fun text => ⟨text, true⟩) := by
  induction data with
  | nil => exact .nil
  | cons word others ih =>
      exact
        .cons (word.makes (nonempty _ (by simp)))
          (ih fun text member => nonempty text (by simp [member]))

/--
A line in which a command is written denotes that command, provided that no
argument and no target is empty and that there is something to write.
-/
theorem Command.ofLine_of_rendered
    {command : Command} {line : Text}
    (rendered : Command.Rendered command line)
    (nonemptyArguments : ∀ argument ∈ command.arguments, argument ≠ [])
    (nonemptyTarget :
      ∀ redirection ∈ command.redirection, redirection.target ≠ [])
    (something : command ≠ ⟨[], none⟩) :
    Command.ofLine line = .ok command := by
  cases rendered with
  | @plain arguments words _ written separated =>
      have split :=
        splitWords_of_separated separated
          (forall₂_makes written nonemptyArguments)
      have present : arguments ≠ [] := by
        rintro rfl
        exact something rfl
      rw [ofLine, split, ofWords, if_neg (by simpa using present),
        collect_map_data]
  | @redirected before after wordsBefore wordsAfter spelling target
      writtenTarget _ stream mode operator writtenBefore written
      writtenAfter separated =>
      have madeBefore :=
        forall₂_makes writtenBefore fun text member =>
          nonemptyArguments text (List.mem_append_left after member)
      have madeAfter :=
        forall₂_makes writtenAfter fun text member =>
          nonemptyArguments text (List.mem_append_right before member)
      have madeTarget :=
        written.makes (nonemptyTarget ⟨stream, mode, target⟩ rfl)
      have split :=
        splitWords_of_separated separated
          (List.rel_append madeBefore
            (.cons (makes_of_mem_operators operator)
              (.cons madeTarget madeAfter)))
      rw [ofLine, split, ofWords, if_neg (by simp)]
      exact
        collect_map_data_append before
          (operator?_of_mem_operators operator) target after

/-- Three ways of writing data around an operator that stands in the middle. -/
theorem Command.ofLine_of_rendered_mixed :
    Command.ofLine "'echo' 2>>\t 'a b'\"\\\"\"\n\\>".toList =
      .ok
        ⟨["echo".toList, ">".toList],
          some ⟨.stderr, .append, "a b\"".toList⟩⟩ := by
  have echo : WrittenWord "echo".toList "'echo'".toList :=
    .segment (.single (by decide))
  have spaced : WrittenSegment "a b".toList "'a b'".toList :=
    .single (by decide)
  have target : WrittenWord "a b\"".toList "'a b'\"\\\"\"".toList :=
    .cons spaced (.segment (.double "\"".toList))
  have greater : WrittenWord ">".toList "\\>".toList :=
    .segment (.escaped ">".toList)
  have separated :
      Separated
        (["'echo'".toList] ++
          "2>>".toList :: "'a b'\"\\\"\"".toList :: ["\\>".toList])
        "'echo' 2>>\t 'a b'\"\\\"\"\n\\>".toList :=
    .cons (show " ".toList ≠ [] by decide)
      (List.all_eq_true.mp (by decide))
      (.cons (show "\t ".toList ≠ [] by decide)
        (List.all_eq_true.mp (by decide))
        (.cons (show "\n".toList ≠ [] by decide)
          (List.all_eq_true.mp (by decide))
          (.singleton "\\>".toList)))
  have rendered :
      Command.Rendered
        ⟨["echo".toList] ++ [">".toList],
          some ⟨.stderr, .append, "a b\"".toList⟩⟩
        "'echo' 2>>\t 'a b'\"\\\"\"\n\\>".toList :=
    .redirected (by decide) (.cons echo .nil) target (.cons greater .nil)
      separated
  exact
    Command.ofLine_of_rendered rendered (by decide) (by decide) (by decide)

end InteractiveShell
