import InteractiveShell.Proofs.Text.Character

/-!
# Decoding what was encoded

A text that is encoded and decoded again is the same text.  The payload bits of a character's
encoding are its code point, the first byte announces just the bytes that follow it, and all of
these continue a sequence; so reading a character takes exactly its encoding off the front of some
bytes.
-/

namespace InteractiveShell

namespace Utf8

theorem payload_utf8EncodeChar (encoded : Char) :
    payload (String.utf8EncodeChar encoded) = encoded.toNat := by
  have valid := encoded.valid
  have same : encoded.toNat = encoded.val.toNat := rfl
  simp only [UInt32.isValidChar, Nat.isValidChar] at valid
  rw [same]
  simp only [String.utf8EncodeChar]
  split_ifs with one two three
  · simp [payload]
    omega
  · simp [payload]
    omega
  · simp [payload]
    omega
  · simp [payload]
    omega

@[simp]
theorem character_utf8EncodeChar (encoded : Char) :
    character (String.utf8EncodeChar encoded) = encoded := by
  simp [character, character?, payload_utf8EncodeChar, Option.filter]

theorem isContinuation_ofNat (bits : Nat) :
    isContinuation (UInt8.ofNat (bits % 64 + 128)) = true := by
  simp [isContinuation, UInt8.le_iff_toNat_le]
  omega

theorem announced?_ofNat_one (bits : Nat) :
    announced? (UInt8.ofNat (bits % 32 + 192)) = some 1 := by
  unfold announced?
  rw [if_pos]
  simp [UInt8.le_iff_toNat_le]
  omega

theorem announced?_ofNat_two (bits : Nat) :
    announced? (UInt8.ofNat (bits % 16 + 224)) = some 2 := by
  unfold announced?
  rw [if_neg, if_pos] <;> simp [UInt8.le_iff_toNat_le] <;> omega

theorem announced?_ofNat_three (bits : Nat) :
    announced? (UInt8.ofNat (bits % 8 + 240)) = some 3 := by
  unfold announced?
  rw [if_neg, if_neg, if_pos] <;> simp [UInt8.le_iff_toNat_le] <;> omega

theorem not_lt_of_announced?_eq_some
    {first : UInt8} {count : Nat}
    (announces : announced? first = some count) :
    ¬ first < 0x80 := by
  intro single
  unfold announced? at announces
  simp [UInt8.le_iff_toNat_le, UInt8.lt_iff_toNat_lt] at announces single
  split_ifs at announces <;> omega

theorem continuation_append
    {found : Bytes}
    (continues : ∀ byte ∈ found, isContinuation byte = true)
    (rest : Bytes) :
    continuation found.length (found ++ rest) = (found, rest) := by
  induction found with
  | nil => rfl
  | cons byte found ih =>
      simp only [List.mem_cons, forall_eq_or_imp] at continues
      rw [List.length_cons, List.cons_append, continuation,
        if_pos continues.1, ih continues.2]
      rfl

/-- A first byte and the bytes that it announces make one character, whatever comes next. -/
theorem next?_of_announced?_eq_some
    {first : UInt8} {found : Bytes}
    (announces : announced? first = some found.length)
    (continues : ∀ byte ∈ found, isContinuation byte = true)
    (rest : Bytes) :
    next? (first :: found ++ rest) =
      some (character (first :: found), rest) := by
  have several := not_lt_of_announced?_eq_some announces
  rw [List.cons_append, next?, if_neg several, announces]
  simp only [continuation_append continues rest, if_pos]

theorem next?_utf8EncodeChar_append (encoded : Char) (rest : Bytes) :
    next? (String.utf8EncodeChar encoded ++ rest) =
      some (encoded, rest) := by
  have whole := character_utf8EncodeChar encoded
  have same : encoded.toNat = encoded.val.toNat := rfl
  simp only [String.utf8EncodeChar] at whole ⊢
  split_ifs at whole ⊢ with one two three
  · have single : UInt8.ofNat encoded.val.toNat < 0x80 := by
      simp [UInt8.lt_iff_toNat_lt]
      omega
    have value :
        (UInt8.ofNat encoded.val.toNat).toNat = encoded.toNat := by
      simp
      omega
    rw [List.singleton_append, next?, if_pos single, value,
      Char.ofNat_toNat]
  · refine
      (next?_of_announced?_eq_some (announced?_ofNat_one _) ?_ rest).trans
        (by rw [whole])
    simp only [List.mem_singleton, forall_eq, isContinuation_ofNat]
  · refine
      (next?_of_announced?_eq_some (announced?_ofNat_two _) ?_ rest).trans
        (by rw [whole])
    simp only [List.mem_cons, List.not_mem_nil, or_false, forall_eq_or_imp,
      forall_eq, isContinuation_ofNat, and_self]
  · refine
      (next?_of_announced?_eq_some (announced?_ofNat_three _) ?_ rest).trans
        (by rw [whole])
    simp only [List.mem_cons, List.not_mem_nil, or_false, forall_eq_or_imp,
      forall_eq, isContinuation_ofNat, and_self]

theorem reads_encode (text : Text) : Reads text.encode text [] := by
  induction text with
  | nil => exact .nil []
  | cons first rest ih =>
      rw [Text.encode_cons]
      exact .cons (next?_utf8EncodeChar_append first (Text.encode rest)) ih

/-- A text is what its encoding decodes to. -/
@[simp]
theorem decode_encode (text : Text) : decode text.encode = text := by
  have decoded := decode_eq_append_of_reads (reads_encode text)
  have silent : decode [] = [] := rfl
  rw [decoded, silent, List.append_nil]

end Utf8

theorem Text.encode_injective : Function.Injective Text.encode := by
  intro first second same
  rw [← Utf8.decode_encode first, same, Utf8.decode_encode]

end InteractiveShell
