import InteractiveShell.Word

/-!
# Lines as runs of segments

The quoting rules describe a line as a run of segments: blanks, characters that stand for
themselves, characters behind a backslash, and runs between quotes.  `readSegments` reads a line
that way, by looking ahead to where each segment ends, and `wordsOf` cuts the segments at the
blanks and joins what lies between two cuts.

The scanner looks at one character at a time instead and remembers where it stands.  Each lemma
`words_…` says how a scanner outside quotes passes one segment.  Together they show that the
scanner and the reading by segments find the same words, quotes that are never closed included.
-/

namespace InteractiveShell

/-- A segment of a line. -/
inductive Segment where
  /-- A blank outside quotes. -/
  | separator
  /-- A character that stands for itself. -/
  | plain (character : Char)
  /-- A character behind a backslash, outside quotes. -/
  | escaped (character : Char)
  /-- What stands between single quotes. -/
  | single (content : Text)
  /-- What stands between double quotes, its backslashes resolved. -/
  | double (content : Text)
  /-- A backslash that ends the line. -/
  | loneBackslash
deriving DecidableEq

namespace Segment

/-- The characters that a segment adds to its word. -/
def text : Segment → Text
  | separator => []
  | plain character => [character]
  | escaped character => [character]
  | single content => content
  | double content => content
  | loneBackslash => []

/-- Whether a segment is a single character that stands for itself. -/
def isPlain : Segment → Bool
  | plain _ => true
  | _ => false

/-- Characters that stand for themselves make the text that they are. -/
theorem flatMap_text_map_plain (characters : Text) :
    (characters.map plain).flatMap text = characters := by
  rw [List.flatMap_map]
  exact List.flatMap_singleton' characters

end Segment

/-- The characters that a backslash escapes between double quotes. -/
def escapable : List Char :=
  ['$', '\x60', '"', '\\']

theorem losesBackslash_eq_true_iff {character : Char} :
    losesBackslash character = true ↔ character ∈ escapable := by
  simp [losesBackslash, escapable, or_assoc]

/--
What stands between double quotes, and the line behind the quote that closes
them.  Without such a quote the run ends with the line.
-/
def readDouble : Text → Text × Text
  | [] => ([], [])
  | '"' :: behind => ([], behind)
  | ['\\'] => ([], [])
  | '\\' :: character :: rest =>
      let kept :=
        if character ∈ escapable then [character] else ['\\', character]
      (readDouble rest).map (kept ++ ·) id
  | character :: rest => (readDouble rest).map (character :: ·) id

theorem readDouble_cons
    {character : Char}
    (notQuote : character ≠ '"') (notBackslash : character ≠ '\\')
    (rest : Text) :
    readDouble (character :: rest) =
      (readDouble rest).map (character :: ·) id := by
  rw [readDouble]
  · exact notQuote
  · exact fun backslash => absurd backslash notBackslash
  · exact fun _ _ backslash => absurd backslash notBackslash

theorem length_readDouble_le (line : Text) :
    (readDouble line).2.length ≤ line.length := by
  fun_induction readDouble line with
  | case1 => simp
  | case2 behind => simp
  | case3 => simp
  | case4 character rest kept ih =>
      simp only [Prod.map_snd, id_eq, List.length_cons]
      omega
  | case5 character rest _ _ _ ih =>
      simp only [Prod.map_snd, id_eq, List.length_cons]
      omega

/-- The segments of a line. -/
def readSegments : Text → List Segment
  | [] => []
  | ['\\'] => [.loneBackslash]
  | '\\' :: character :: rest => .escaped character :: readSegments rest
  | '\'' :: rest =>
      .single (rest.takeWhile (· ≠ '\'')) ::
        readSegments (rest.dropWhile (· ≠ '\'')).tail
  | '"' :: rest =>
      .double (readDouble rest).1 :: readSegments (readDouble rest).2
  | character :: rest =>
      (if isBlank character then .separator else .plain character) ::
        readSegments rest
termination_by line => line.length
decreasing_by
  · simp only [List.length_cons]
    omega
  · have shorter := (List.dropWhile_sublist (· ≠ '\'') (l := rest)).length_le
    simp only [List.length_tail, List.length_cons]
    omega
  · have shorter := length_readDouble_le rest
    simp only [List.length_cons]
    omega
  · simp only [List.length_cons]
    omega

/-- The word that segments between two separators make, unless it has no character. -/
def wordOf? (segments : List Segment) : Option Word :=
  match segments.flatMap Segment.text with
  | [] => none
  | text => some ⟨text, segments.any fun segment => !segment.isPlain⟩

/-- The words that segments make, cut at the separators. -/
def wordsOf (segments : List Segment) : List Word :=
  (segments.splitOnP fun segment => segment = .separator).filterMap wordOf?

namespace Scanner

/-- The scanner outside quotes behind some segments of a word. -/
def behind (segments : List Segment) : Scanner :=
  ⟨.bare, (segments.flatMap Segment.text).reverse,
    segments.any fun segment => !segment.isPlain⟩

@[simp]
theorem behind_nil : behind [] = fresh :=
  rfl

@[simp]
theorem word?_behind (segments : List Segment) :
    (behind segments).word? = wordOf? segments := by
  unfold word? wordOf? behind
  cases segments.flatMap Segment.text with
  | nil => rfl
  | cons first rest =>
      cases reversed : (first :: rest).reverse with
      | nil => simp at reversed
      | cons last earlier => simp [← reversed]

/-! ### Passing one segment -/

theorem words_cons_of_separates_eq_false
    {scanner : Scanner} {character : Char}
    (inside : scanner.separates character = false)
    (rest : Text) :
    scanner.words (character :: rest) =
      (scanner.advance character).words rest := by
  rw [words, if_neg (by simp [inside])]

theorem words_separator
    {character : Char} (blank : isBlank character = true)
    (segments : List Segment) (rest : Text) :
    (behind segments).words (character :: rest) =
      (wordOf? segments).toList ++ fresh.words rest := by
  have notBackslash : character ≠ '\\' := by
    rintro rfl
    exact absurd blank (by decide)
  have notSingle : character ≠ '\'' := by
    rintro rfl
    exact absurd blank (by decide)
  have notDouble : character ≠ '"' := by
    rintro rfl
    exact absurd blank (by decide)
  have advanced : (behind segments).advance character = fresh := by
    simp [behind, advance, notBackslash, notSingle, notDouble, blank]
  rw [words, if_pos (by simp [behind, separates, blank]), advanced,
    word?_behind]
  cases wordOf? segments <;> rfl

theorem words_plain
    {character : Char}
    (notBackslash : character ≠ '\\')
    (notSingle : character ≠ '\'')
    (notDouble : character ≠ '"')
    (notBlank : isBlank character = false)
    (segments : List Segment) (rest : Text) :
    (behind segments).words (character :: rest) =
      (behind (segments ++ [.plain character])).words rest := by
  have collects :
      (behind segments).advance character =
        behind (segments ++ [.plain character]) := by
    simp [behind, advance, notBackslash, notSingle, notDouble, notBlank,
      collect, Segment.text, Segment.isPlain]
  rw [words_cons_of_separates_eq_false (by simp [separates, notBlank]),
    collects]

theorem words_escaped
    (segments : List Segment) (character : Char) (rest : Text) :
    (behind segments).words ('\\' :: character :: rest) =
      (behind (segments ++ [.escaped character])).words rest := by
  have collects :
      ((behind segments).advance '\\').advance character =
        behind (segments ++ [.escaped character]) := by
    simp [behind, advance, pass, collectInto, Segment.text, Segment.isPlain]
  rw [words_cons_of_separates_eq_false rfl,
    words_cons_of_separates_eq_false rfl, collects]

theorem words_loneBackslash (segments : List Segment) :
    (behind segments).words ['\\'] =
      (behind (segments ++ [.loneBackslash])).words [] := by
  rw [words_cons_of_separates_eq_false rfl]
  simp [behind, advance, pass, words, word?, Segment.text, Segment.isPlain]

/-- A scanner between single quotes collects everything up to the next one. -/
theorem words_within_single (collected : List Char) (rest : Text) :
    (⟨.single, collected, true⟩ : Scanner).words rest =
      (⟨.bare, (rest.takeWhile (· ≠ '\'')).reverse ++ collected, true⟩ :
        Scanner).words (rest.dropWhile (· ≠ '\'')).tail := by
  induction rest generalizing collected with
  | nil => rfl
  | cons character rest ih =>
      rw [words_cons_of_separates_eq_false rfl]
      by_cases closing : character = '\''
      · subst character
        rfl
      · have collects :
            (⟨.single, collected, true⟩ : Scanner).advance character =
              ⟨.single, character :: collected, true⟩ := by
          simp [advance, closing, collect]
        rw [collects, ih (character :: collected)]
        simp [closing]

theorem words_single (segments : List Segment) (rest : Text) :
    (behind segments).words ('\'' :: rest) =
      (behind (segments ++ [.single (rest.takeWhile (· ≠ '\''))])).words
        (rest.dropWhile (· ≠ '\'')).tail := by
  have opens :
      (behind segments).advance '\'' =
        ⟨.single, (behind segments).collected, true⟩ :=
    rfl
  rw [words_cons_of_separates_eq_false rfl, opens, words_within_single]
  simp [behind, Segment.text, Segment.isPlain]

/-- A scanner between double quotes collects what `readDouble` reads. -/
theorem words_within_double (collected : List Char) (rest : Text) :
    (⟨.double, collected, true⟩ : Scanner).words rest =
      (⟨.bare, (readDouble rest).1.reverse ++ collected, true⟩ :
        Scanner).words (readDouble rest).2 := by
  fun_induction readDouble rest generalizing collected with
  | case1 => rfl
  | case2 behind =>
      rw [words_cons_of_separates_eq_false rfl]
      rfl
  | case3 =>
      rw [words_cons_of_separates_eq_false rfl]
      rfl
  | case4 character rest kept ih =>
      have collects :
          ((⟨.double, collected, true⟩ : Scanner).advance '\\').advance
              character =
            ⟨.double, kept.reverse ++ collected, true⟩ := by
        by_cases escapes : character ∈ escapable <;>
          simp [advance, pass, collect, collectInto, kept, escapes,
            losesBackslash_eq_true_iff]
      rw [words_cons_of_separates_eq_false rfl,
        words_cons_of_separates_eq_false rfl, collects,
        ih (kept.reverse ++ collected)]
      simp
  | case5 character rest notDouble notLone notEscaping ih =>
      have notQuote : character ≠ '"' := notDouble
      have notBackslash : character ≠ '\\' := by
        intro backslash
        cases rest with
        | nil => exact notLone backslash rfl
        | cons next rest => exact notEscaping next rest backslash rfl
      have collects :
          (⟨.double, collected, true⟩ : Scanner).advance character =
            ⟨.double, character :: collected, true⟩ := by
        simp [advance, notBackslash, notQuote, collect]
      rw [words_cons_of_separates_eq_false rfl, collects,
        ih (character :: collected)]
      simp

theorem words_double (segments : List Segment) (rest : Text) :
    (behind segments).words ('"' :: rest) =
      (behind (segments ++ [.double (readDouble rest).1])).words
        (readDouble rest).2 := by
  have opens :
      (behind segments).advance '"' =
        ⟨.double, (behind segments).collected, true⟩ :=
    rfl
  rw [words_cons_of_separates_eq_false rfl, opens, words_within_double]
  simp [behind, Segment.text, Segment.isPlain]

end Scanner

/-! ### Passing a whole line -/

theorem wordsOf_of_separator_notMem
    {segments : List Segment} (joined : .separator ∉ segments) :
    wordsOf segments = (wordOf? segments).toList := by
  have uncut :
      (segments.splitOnP fun segment => segment = .separator) = [segments] := by
    apply List.splitOnP_eq_singleton
    intro segment member
    have other : segment ≠ .separator :=
      ne_of_mem_of_not_mem member joined
    simpa using other
  rw [wordsOf, uncut]
  cases found : wordOf? segments <;> simp [found]

theorem wordsOf_append_separator
    {segments : List Segment} (joined : .separator ∉ segments)
    (later : List Segment) :
    wordsOf (segments ++ .separator :: later) =
      (wordOf? segments).toList ++ wordsOf later := by
  rw [← wordsOf_of_separator_notMem joined]
  simp [wordsOf, List.splitOnP_append_cons]

/-- Another segment of the same word belongs to the segments of the line. -/
private theorem words_behind_append_singleton
    {segments : List Segment} (joined : .separator ∉ segments)
    {segment : Segment} (other : segment ≠ .separator)
    {rest : Text}
    (scanned :
      ∀ earlier : List Segment, .separator ∉ earlier →
        (Scanner.behind earlier).words rest =
          wordsOf (earlier ++ readSegments rest)) :
    (Scanner.behind (segments ++ [segment])).words rest =
      wordsOf (segments ++ segment :: readSegments rest) := by
  have longer : .separator ∉ segments ++ [segment] := by
    simp [joined, other.symm]
  rw [scanned (segments ++ [segment]) longer, List.append_assoc,
    List.singleton_append]

/--
A scanner behind some segments of a word finds the words that these segments
make together with those of the line in front of it.
-/
theorem Scanner.words_behind
    (segments : List Segment) (joined : .separator ∉ segments) (line : Text) :
    (behind segments).words line =
      wordsOf (segments ++ readSegments line) := by
  fun_induction readSegments line generalizing segments with
  | case1 =>
      rw [words, word?_behind, List.append_nil,
        wordsOf_of_separator_notMem joined]
  | case2 =>
      have ended : .separator ∉ segments ++ [Segment.loneBackslash] := by
        simp [joined]
      rw [words_loneBackslash, words, word?_behind,
        wordsOf_of_separator_notMem ended]
  | case3 character rest ih =>
      rw [words_escaped]
      exact words_behind_append_singleton joined (by simp) ih
  | case4 rest ih =>
      rw [words_single]
      exact words_behind_append_singleton joined (by simp) ih
  | case5 rest ih =>
      rw [words_double]
      exact words_behind_append_singleton joined (by simp) ih
  | case6 character rest notLone notEscaping notSingle notDouble ih =>
      by_cases blank : isBlank character = true
      · have fromFresh := ih [] (by simp)
        rw [behind_nil, List.nil_append] at fromFresh
        rw [if_pos blank, words_separator blank, fromFresh,
          wordsOf_append_separator joined]
      · have notBackslash : character ≠ '\\' := by
          intro backslash
          cases rest with
          | nil => exact notLone backslash rfl
          | cons next rest => exact notEscaping next rest backslash rfl
        rw [if_neg blank,
          words_plain notBackslash notSingle notDouble (by simpa using blank)]
        exact words_behind_append_singleton joined (by simp) ih

/-- The scanner splits a line into the words that its segments make. -/
theorem splitWords_eq_wordsOf_readSegments (line : Text) :
    splitWords line = wordsOf (readSegments line) := by
  have scanned := Scanner.words_behind [] (by simp) line
  simpa [splitWords] using scanned

end InteractiveShell
