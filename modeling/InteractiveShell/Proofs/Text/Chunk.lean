import InteractiveShell.Proofs.Text.Encoding
import Mathlib.Data.List.Forall2

/-!
# The bytes that a character stands for

Decoding cuts the bytes into chunks, one for each character that it hands out.  A chunk is one byte
and the continuation bytes that were taken with it, so a byte that continues nothing always stands
at the front of its chunk, whatever came before it.  A character is either the one whose encoding
its chunk is, or it marks a chunk that no character is encoded as.

It follows that nothing is lost exactly if the bytes are the encoding of a text.
-/

namespace InteractiveShell

namespace Utf8

/-- A byte with at most three continuation bytes behind it. -/
def IsChunk (bytes : Bytes) : Prop :=
  ∃ first continued,
    bytes = first :: continued ∧
      continued.length ≤ 3 ∧
        ∀ byte ∈ continued, 0x80 ≤ byte ∧ byte ≤ 0xBF

/--
A character stands for a chunk: it is encoded as the chunk, or it marks a
chunk that no character is encoded as.
-/
structure StandsFor (character : Char) (chunk : Bytes) : Prop where
  shape : IsChunk chunk
  content :
    String.utf8EncodeChar character = chunk ∨
      (character = replacement ∧
        ∀ other, String.utf8EncodeChar other ≠ chunk)

theorem isContinuation_iff {byte : UInt8} :
    isContinuation byte = true ↔ 0x80 ≤ byte ∧ byte ≤ 0xBF := by
  simp [isContinuation]

theorem isContinuation_eq_false_iff {byte : UInt8} :
    isContinuation byte = false ↔ byte < 0x80 ∨ 0xBF < byte := by
  rw [← Bool.not_eq_true, isContinuation_iff]
  simp only [UInt8.le_iff_toNat_le, UInt8.lt_iff_toNat_lt]
  omega

/-! ### One character -/

section One

variable {first : UInt8} {found : Bytes} {encoded : Char}

theorem length_le_of_announced?_eq_some
    {count : Nat} (announces : announced? first = some count) :
    count ≤ 3 := by
  unfold announced? at announces
  split_ifs at announces <;> cases announces <;> decide

/-- The first byte of an encoding stands alone, or it announces all the others. -/
theorem leads_of_utf8EncodeChar_eq
    (encodes : String.utf8EncodeChar encoded = first :: found) :
    (found = [] ∧ first < 0x80) ∨
      announced? first = some found.length := by
  simp only [String.utf8EncodeChar] at encodes
  split_ifs at encodes with one two three
  · left
    rcases List.cons.inj encodes with ⟨rfl, rfl⟩
    refine ⟨rfl, ?_⟩
    simp only [UInt8.lt_iff_toNat_lt, UInt8.toNat_ofNat']
    exact Nat.lt_of_le_of_lt (Nat.mod_le _ _) (Nat.lt_succ_of_le one)
  · right
    rcases List.cons.inj encodes with ⟨rfl, rfl⟩
    exact announced?_ofNat_one _
  · right
    rcases List.cons.inj encodes with ⟨rfl, rfl⟩
    exact announced?_ofNat_two _
  · right
    rcases List.cons.inj encodes with ⟨rfl, rfl⟩
    exact announced?_ofNat_three _

/-- What is taken off some bytes to continue a character continues it. -/
theorem continuation_spec (count : Nat) (bytes : Bytes) :
    (continuation count bytes).1 ++ (continuation count bytes).2 = bytes ∧
      (continuation count bytes).1.length ≤ count ∧
        ∀ byte ∈ (continuation count bytes).1,
          isContinuation byte = true := by
  induction count generalizing bytes with
  | zero => simp [continuation]
  | succ count ih =>
      cases bytes with
      | nil => simp [continuation]
      | cons byte rest =>
          rw [continuation]
          split_ifs with continues
          · rcases ih rest with ⟨whole, short, all⟩
            refine ⟨?_, ?_, ?_⟩
            · simpa using whole
            · simpa using short
            · simpa [continues] using all
          · simp

theorem isChunk_of_continues
    (short : found.length ≤ 3)
    (continues : ∀ byte ∈ found, isContinuation byte = true) :
    IsChunk (first :: found) := by
  refine ⟨first, found, rfl, short, ?_⟩
  intro byte member
  exact isContinuation_iff.mp (continues byte member)

/-- A sequence of announced length stands for what it is decoded to. -/
theorem standsFor_character
    (shape : IsChunk (first :: found)) :
    StandsFor (character (first :: found)) (first :: found) := by
  refine ⟨shape, ?_⟩
  cases decoded : character? (first :: found) with
  | some result =>
      left
      rw [character, decoded]
      exact encode_of_character?_eq_some decoded
  | none =>
      right
      refine ⟨by rw [character, decoded]; rfl, ?_⟩
      intro other same
      have value := payload_utf8EncodeChar other
      rw [same] at value
      simp [character?, value, Option.filter, same] at decoded

/-- A sequence that is shorter than announced, or announces nothing, is marked. -/
theorem standsFor_replacement
    (shape : IsChunk (first :: found))
    (several : ¬ first < 0x80)
    (broken : announced? first ≠ some found.length) :
    StandsFor replacement (first :: found) := by
  refine ⟨shape, .inr ⟨rfl, ?_⟩⟩
  intro other same
  rcases leads_of_utf8EncodeChar_eq same with ⟨_, single⟩ | announces
  · exact several single
  · exact broken announces

theorem utf8EncodeChar_ofNat (single : first < 0x80) :
    String.utf8EncodeChar (Char.ofNat first.toNat) = [first] := by
  have below : first.toNat < 128 := by
    simpa [UInt8.lt_iff_toNat_lt] using single
  have valid : first.toNat.isValidChar := .inl (by omega)
  have value : (Char.ofNat first.toNat).val.toNat = first.toNat := by
    rw [Char.ofNat, dif_pos valid]
    rfl
  simp only [String.utf8EncodeChar, value]
  rw [if_pos (by omega), UInt8.ofNat_toNat]

/-- The character in front of some bytes stands for a chunk in front of them. -/
theorem exists_chunk_of_next?_eq_some
    {bytes behind : Bytes} {taken : Char}
    (read : next? bytes = some (taken, behind)) :
    ∃ chunk, bytes = chunk ++ behind ∧ StandsFor taken chunk := by
  cases bytes with
  | nil => simp [next?] at read
  | cons byte rest =>
      have alone : IsChunk [byte] :=
        isChunk_of_continues (Nat.zero_le 3) (by simp)
      rw [next?] at read
      by_cases single : byte < 0x80
      · rw [if_pos single] at read
        cases read
        exact ⟨[byte], rfl, alone, .inl (utf8EncodeChar_ofNat single)⟩
      · rw [if_neg single] at read
        cases announces : announced? byte with
        | none =>
            simp only [announces, Option.some.injEq, Prod.mk.injEq] at read
            rcases read with ⟨rfl, rfl⟩
            exact
              ⟨[byte], rfl,
                standsFor_replacement alone single (by simp [announces])⟩
        | some count =>
            rcases continuation_spec count rest with
              ⟨whole, short, continues⟩
            have most := length_le_of_announced?_eq_some announces
            have shape :
                IsChunk (byte :: (continuation count rest).1) :=
              isChunk_of_continues (Nat.le_trans short most) continues
            simp only [announces] at read
            split_ifs at read with full
            · cases read
              refine ⟨_, ?_, standsFor_character shape⟩
              rw [List.cons_append, whole]
            · cases read
              refine ⟨_, ?_, standsFor_replacement shape single ?_⟩
              · rw [List.cons_append, whole]
              · rw [announces]
                intro same
                exact full (Option.some.inj same).symm

end One

/-! ### All characters -/

/-- Characters that are taken off some bytes stand for chunks of them. -/
theorem Reads.exists_chunks
    {bytes unread : Bytes} {characters : Text}
    (reads : Reads bytes characters unread) :
    ∃ chunks : List Bytes,
      bytes = chunks.flatten ++ unread ∧
        List.Forall₂ StandsFor characters chunks := by
  induction reads with
  | nil bytes => exact ⟨[], rfl, .nil⟩
  | cons taken _ ih =>
      rcases exists_chunk_of_next?_eq_some taken with ⟨chunk, rfl, stands⟩
      rcases ih with ⟨chunks, rfl, others⟩
      refine ⟨chunk :: chunks, ?_, .cons stands others⟩
      rw [List.flatten_cons, List.append_assoc]

/-- A byte that continues nothing is decoded as if nothing stood before it. -/
theorem decode_append_of_not_continuation
    {byte : UInt8} (starts : isContinuation byte = false)
    (front rest : Bytes) :
    decode (front ++ byte :: rest) =
      decode front ++ decode (byte :: rest) := by
  rw [decode, Decoder.run_append, decode,
    Decoder.run_eq_feedAll_append_finish .idle front, List.append_assoc]
  congr 1
  cases (Decoder.idle.feedAll front).1 with
  | idle => rfl
  | unfinished pending missing =>
      simp [Decoder.run_cons, Decoder.feed, starts, Decoder.finish, decode]

/-- Bytes that decode to a text without loss are its encoding. -/
theorem encode_decode_eq_iff {bytes : Bytes} :
    Text.encode (decode bytes) = bytes ↔
      bytes.toByteArray.IsValidUTF8 := by
  constructor
  · intro same
    refine ⟨decode bytes, ?_⟩
    show bytes.toByteArray = (Text.encode (decode bytes)).toByteArray
    rw [same]
  · rintro ⟨text, same⟩
    have encoded : bytes = Text.encode text := by
      have arrays := congrArg ByteArray.data same
      simpa [List.utf8Encode, Text.encode] using arrays
    rw [encoded, decode_encode]

/--
Decoding loses no byte of a valid text and swallows no key.  Its characters
stand for chunks that make up the bytes; a byte that is no continuation byte
is decoded as if nothing stood before it, and an ASCII byte is a character of
its own; and encoding the characters again gives the bytes exactly if these
are valid UTF-8.
-/
theorem decode_lossless :
    (∀ bytes : Bytes,
        ∃ chunks : List Bytes,
          chunks.flatten = bytes ∧
            List.Forall₂ StandsFor (decode bytes) chunks) ∧
      (∀ (front : Bytes) (byte : UInt8) (rest : Bytes),
        byte < 0x80 ∨ 0xBF < byte →
          decode (front ++ byte :: rest) =
            decode front ++ decode (byte :: rest)) ∧
      (∀ (front : Bytes) (byte : UInt8) (rest : Bytes),
        byte < 0x80 →
          decode (front ++ byte :: rest) =
            decode front ++ Char.ofNat byte.toNat :: decode rest) ∧
      (∀ text : Text, decode text.encode = text) ∧
      ∀ bytes : Bytes,
        Text.encode (decode bytes) = bytes ↔
          bytes.toByteArray.IsValidUTF8 := by
  refine ⟨?_, ?_, ?_, decode_encode, ?_⟩
  · intro bytes
    rcases (reads_decode bytes).exists_chunks with ⟨chunks, cut, stand⟩
    rw [List.append_nil] at cut
    exact ⟨chunks, cut.symm, stand⟩
  · intro front byte rest starts
    exact
      decode_append_of_not_continuation
        (isContinuation_eq_false_iff.mpr starts) front rest
  · intro front byte rest single
    have starts := isContinuation_eq_false_iff.mpr (.inl single)
    have taken :
        next? (byte :: rest) = some (Char.ofNat byte.toNat, rest) := by
      rw [next?, if_pos single]
    rw [decode_append_of_not_continuation starts,
      decode_eq_of_next?_eq_some taken]
  · intro bytes
    exact encode_decode_eq_iff

/-- A line's end behind an unfinished sequence, with another unfinished one behind it. -/
theorem decode_lossless_unfinished :
    (0x0d : UInt8) < 0x80 ∧
      decode ([0x6c, 0xe2, 0x82] ++ 0x0d :: [0xc3]) =
        decode [0x6c, 0xe2, 0x82] ++ '\x0d' :: decode [0xc3] := by
  have single : (0x0d : UInt8) < 0x80 := by decide
  rcases decode_lossless with ⟨_, _, ascii, _, _⟩
  exact ⟨single, ascii [0x6c, 0xe2, 0x82] 0x0d [0xc3] single⟩

end Utf8

end InteractiveShell
