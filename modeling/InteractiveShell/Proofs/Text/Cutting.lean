import InteractiveShell.Proofs.Text.CommonPrefix
import InteractiveShell.Proofs.Text.Encoding

/-!
# Narrowing texts down by their bytes

`longestCommonPrefix` compares characters and keeps characters.  Texts that are stored as bytes are
narrowed down differently: the characters are compared, but what is found is the number of a byte,
and the text is cut there.  `Text.narrow?` does it that way.  A cut that falls within a character
has no result, so it has to be shown that no cut does.

The number of bytes on which two texts agree is that of their common beginning, also where two
characters that differ begin with the same bytes and where one text ends within the other.  So every
cut falls between two characters of both texts, and narrowing by bytes leaves the greatest common
beginning of all of them.
-/

namespace InteractiveShell

namespace Text

/-- The characters of a text, each with the number of the byte at which it begins. -/
def offsets (start : Nat) : Text → List (Nat × Char)
  | [] => []
  | first :: rest =>
      (start, first) ::
        offsets (start + (String.utf8EncodeChar first).length) rest

/--
The number of bytes on which two texts agree: up to the first character that
differs, and up to the end of the shorter text if none does.
-/
def agreement (common candidate : Text) : Nat :=
  let different :=
    ((common.offsets 0).zip candidate).find? fun pair => pair.1.2 ≠ pair.2
  different.elim (min common.byteCount candidate.byteCount) (·.1.1)

/-- The text that the first bytes of a text encode; nothing if they end within a character. -/
def cut? (text : Text) (count : Nat) : Option Text :=
  let front := text.encode.take count
  if count ≤ text.byteCount ∧ (Utf8.decode front).encode = front then
    some (Utf8.decode front)
  else
    none

/--
Narrows a text down by others in turn, cutting bytes, until nothing is left of
it; nothing if a cut falls within a character.
-/
def narrow? (common : Text) : List Text → Option Text
  | [] => some common
  | candidate :: rest =>
      match common.cut? (common.agreement candidate) with
      | none => none
      | some [] => some []
      | some shorter => shorter.narrow? rest

/-! ### Beginnings and their bytes -/

@[simp]
theorem byteCount_nil : byteCount [] = 0 :=
  rfl

@[simp]
theorem byteCount_cons (first : Char) (rest : Text) :
    byteCount (first :: rest) =
      (String.utf8EncodeChar first).length + byteCount rest := by
  simp [byteCount]

/-- The bytes of a text begin with those of another one only where the text does so itself. -/
theorem encode_prefix_encode_iff {front text : Text} :
    front.encode <+: text.encode ↔ front <+: text := by
  constructor
  · intro begins
    induction front generalizing text with
    | nil => exact List.nil_prefix
    | cons first front ih =>
        rcases begins with ⟨behind, whole⟩
        rw [encode_cons, List.append_assoc] at whole
        have read :=
          Utf8.next?_utf8EncodeChar_append first (encode front ++ behind)
        rw [whole] at read
        cases text with
        | nil => cases read
        | cons second text =>
            rw [encode_cons, Utf8.next?_utf8EncodeChar_append] at read
            simp only [Option.some.injEq, Prod.mk.injEq] at read
            rcases read with ⟨rfl, rest⟩
            rw [List.cons_prefix_cons]
            exact ⟨rfl, ih ⟨behind, rest.symm⟩⟩
  · rintro ⟨behind, rfl⟩
    rw [encode_append]
    exact List.prefix_append _ _

/-- Cutting a text behind the bytes of one of its beginnings leaves that beginning. -/
theorem cut?_byteCount_of_prefix {front text : Text} (begins : front <+: text) :
    text.cut? front.byteCount = some front := by
  rcases begins with ⟨behind, rfl⟩
  have taken :
      (encode (front ++ behind)).take front.byteCount = front.encode := by
    rw [encode_append, byteCount, List.take_left]
  have within : front.byteCount ≤ byteCount (front ++ behind) := by
    simp [byteCount]
  rw [cut?, taken, Utf8.decode_encode, if_pos ⟨within, rfl⟩]

/-! ### Where two texts cease to agree -/

/-- The first difference, with the bytes counted from anywhere. -/
theorem elim_find?_offsets (start : Nat) (common candidate : Text) :
    (((common.offsets start).zip candidate).find?
        fun pair => pair.1.2 ≠ pair.2).elim
      (start + min common.byteCount candidate.byteCount) (·.1.1) =
      start + (commonPrefix common candidate).byteCount := by
  fun_induction commonPrefix common candidate generalizing start with
  | case1 common first candidate ih =>
      have later := ih (start + (String.utf8EncodeChar first).length)
      rw [byteCount_cons, byteCount_cons, byteCount_cons,
        Nat.add_min_add_left, ← Nat.add_assoc, ← Nat.add_assoc, ← later]
      simp [offsets]
  | case2 first common second candidate different =>
      simp [offsets, different]
  | case3 common candidate short =>
      cases common with
      | nil => simp [offsets]
      | cons first common =>
          cases candidate with
          | nil => simp
          | cons second candidate =>
              exact absurd rfl (short first common second candidate rfl)

/-- Two texts agree on the bytes of their common beginning. -/
theorem agreement_eq (common candidate : Text) :
    common.agreement candidate =
      (commonPrefix common candidate).byteCount := by
  have found := elim_find?_offsets 0 common candidate
  rwa [Nat.zero_add, Nat.zero_add] at found

/-- Where two texts cease to agree the first one is cut between two characters. -/
theorem cut?_agreement (common candidate : Text) :
    common.cut? (common.agreement candidate) =
      some (commonPrefix common candidate) := by
  rw [agreement_eq]
  exact
    cut?_byteCount_of_prefix
      (prefix_commonPrefix_iff.mp (List.prefix_refl _)).1

theorem foldl_commonPrefix_nil (texts : List Text) :
    texts.foldl commonPrefix [] = [] := by
  induction texts with
  | nil => rfl
  | cons text texts ih => simpa [commonPrefix] using ih

/-- Narrowing by bytes never cuts a character and leaves what narrowing by characters leaves. -/
theorem narrow?_eq_some_foldl (first : Text) (rest : List Text) :
    first.narrow? rest = some (rest.foldl commonPrefix first) := by
  induction rest generalizing first with
  | nil => rfl
  | cons candidate rest ih =>
      rw [narrow?, cut?_agreement, List.foldl_cons]
      cases left : commonPrefix first candidate with
      | nil => rw [foldl_commonPrefix_nil]
      | cons character shorter => exact ih (character :: shorter)

end Text

/-! ### The greatest common beginning -/

/-- Texts with the same members have the same longest common beginning. -/
theorem longestCommonPrefix_eq_of_mem_iff
    {texts others : List Text}
    (same : ∀ text, text ∈ others ↔ text ∈ texts) :
    longestCommonPrefix others = longestCommonPrefix texts := by
  cases texts with
  | nil =>
      have empty : others = [] :=
        List.eq_nil_iff_forall_not_mem.mpr fun text member =>
          List.not_mem_nil ((same text).mp member)
      rw [empty]
  | cons first rest =>
      have present : others ≠ [] :=
        List.ne_nil_of_mem ((same first).mpr List.mem_cons_self)
      have ofTexts :=
        isLongestCommon_longestCommonPrefix (List.cons_ne_nil first rest)
      have ofOthers := isLongestCommon_longestCommonPrefix present
      refine ofOthers.eq present ⟨?_, ?_⟩
      · intro text member
        exact ofTexts.begins text ((same text).mp member)
      · intro other begins
        exact
          ofTexts.longest other fun text member =>
            begins text ((same text).mpr member)

/--
What a text has to be for it to be the greatest common beginning of some texts,
seen as characters and seen as bytes.
-/
structure GreatestBeginning (first : Text) (rest : List Text) (common : Text) :
    Prop where
  begins : ∀ text ∈ first :: rest, common <+: text
  greatest :
    ∀ other, (∀ text ∈ first :: rest, other <+: text) → other <+: common
  /-- Neither the order of the texts nor how often each occurs matters. -/
  unordered :
    ∀ texts, (∀ text, text ∈ texts ↔ text ∈ first :: rest) →
      longestCommonPrefix texts = common
  folded : rest.foldl (fun left right => longestCommonPrefix [left, right]) first = common
  /-- Narrowing down by bytes leaves the same text. -/
  narrowed : first.narrow? rest = some common
  /-- The bytes of the common beginning end between two characters of every text. -/
  uncut : ∀ text ∈ first :: rest, text.cut? common.byteCount = some common
  /-- No other text has more bytes in common with all of them. -/
  bytes_greatest :
    ∀ other : Text, (∀ text ∈ first :: rest, other.encode <+: text.encode) →
      other.encode <+: common.encode

/-- The longest common beginning is the greatest one, and no character is cut to find it. -/
theorem longestCommonPrefix_greatest (first : Text) (rest : List Text) :
    GreatestBeginning first rest (longestCommonPrefix (first :: rest)) where
  begins := prefix_longestCommonPrefix_iff.mp (List.prefix_refl _)
  greatest := fun _ begins => prefix_longestCommonPrefix_iff.mpr begins
  unordered := fun _ same => longestCommonPrefix_eq_of_mem_iff same
  folded := rfl
  narrowed := Text.narrow?_eq_some_foldl first rest
  uncut := fun text member =>
    Text.cut?_byteCount_of_prefix
      (prefix_longestCommonPrefix_iff.mp (List.prefix_refl _) text member)
  bytes_greatest := by
    intro other begins
    rw [Text.encode_prefix_encode_iff, prefix_longestCommonPrefix_iff]
    intro text member
    exact Text.encode_prefix_encode_iff.mp (begins text member)

/-- The two letters differ in their second bytes only, and none of the bytes is kept. -/
example :
    Text.narrow? "caf\u00e9".toList ["caf\u00e8s".toList] =
      some "caf".toList := by
  decide

end InteractiveShell
