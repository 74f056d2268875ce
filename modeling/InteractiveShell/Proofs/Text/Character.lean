import InteractiveShell.Text.Utf8
import Mathlib.Tactic.SplitIfs

/-!
# Characters in front of bytes

A decoder is given bytes and hands out characters.  `Utf8.next?` looks at the same matter from the
other side: it takes one character off the front of some bytes and says which bytes are left.  It
reads a first byte and as many continuation bytes as that byte announces; a byte that continues
nothing is left for the next character.

`Utf8.Reads` iterates that.  Decoding a run of bytes gives just the characters that are taken off
it one by one, and a decoder that is idle behind some bytes has taken whole characters off them,
whatever bytes come next.
-/

namespace InteractiveShell

namespace Utf8

/-- Up to a number of continuation bytes, and the bytes behind them. -/
def continuation : Nat → Bytes → Bytes × Bytes
  | 0, bytes => ([], bytes)
  | _ + 1, [] => ([], [])
  | count + 1, byte :: rest =>
      if isContinuation byte then
        (continuation count rest).map (byte :: ·) id
      else
        ([], byte :: rest)

/-- The character in front of some bytes, and the bytes behind it. -/
def next? : Bytes → Option (Char × Bytes)
  | [] => none
  | first :: rest =>
      if first < 0x80 then
        some (Char.ofNat first.toNat, rest)
      else
        match announced? first with
        | none => some (replacement, rest)
        | some count =>
            let (found, behind) := continuation count rest
            if found.length = count then
              some (character (first :: found), behind)
            else
              some (replacement, behind)

/-- Taking characters off some bytes one by one gives these characters and leaves those bytes. -/
inductive Reads : Bytes → Text → Bytes → Prop where
  | nil (bytes : Bytes) : Reads bytes [] bytes
  | cons {bytes behind unread : Bytes} {first : Char} {characters : Text}
      (taken : next? bytes = some (first, behind))
      (later : Reads behind characters unread) :
      Reads bytes (first :: characters) unread

theorem Reads.append
    {bytes between unread : Bytes} {first second : Text}
    (front : Reads bytes first between)
    (back : Reads between second unread) :
    Reads bytes (first ++ second) unread := by
  induction front with
  | nil => exact back
  | cons taken _ ih => exact .cons taken (ih back)

namespace Decoder

/-- Gives some bytes to a decoder: its state behind them and the characters that they complete. -/
def feedAll : Decoder → Bytes → Decoder × Text
  | decoder, [] => (decoder, [])
  | decoder, byte :: rest =>
      let (next, characters) := decoder.feed byte
      let (last, later) := feedAll next rest
      (last, characters ++ later)

@[simp]
theorem feedAll_nil (decoder : Decoder) : decoder.feedAll [] = (decoder, []) :=
  rfl

theorem feedAll_cons (decoder : Decoder) (byte : UInt8) (rest : Bytes) :
    decoder.feedAll (byte :: rest) =
      (((decoder.feed byte).1.feedAll rest).1,
        (decoder.feed byte).2 ++ ((decoder.feed byte).1.feedAll rest).2) :=
  rfl

theorem run_cons (decoder : Decoder) (byte : UInt8) (rest : Bytes) :
    decoder.run (byte :: rest) =
      (decoder.feed byte).2 ++ (decoder.feed byte).1.run rest :=
  rfl

/-- Reading to the end is reading some bytes and then the others to their end. -/
theorem run_append (decoder : Decoder) (front back : Bytes) :
    decoder.run (front ++ back) =
      (decoder.feedAll front).2 ++ (decoder.feedAll front).1.run back := by
  induction front generalizing decoder with
  | nil => rfl
  | cons byte front ih =>
      rw [List.cons_append, run_cons, ih, feedAll_cons, List.append_assoc]

theorem run_eq_feedAll_append_finish (decoder : Decoder) (bytes : Bytes) :
    decoder.run bytes =
      (decoder.feedAll bytes).2 ++ (decoder.feedAll bytes).1.finish := by
  simpa [run] using run_append decoder bytes []

/--
A decoder in the middle of a sequence either is still there behind some bytes,
or has completed the sequence with the continuation bytes among them and has
started afresh behind these.
-/
theorem feedAll_unfinished (bytes : Bytes) (missing : Nat) (front : Bytes) :
    (∃ pending count,
        (unfinished bytes missing).feedAll front =
            (unfinished pending count, []) ∧
          continuation (missing + 1) front = (front, []) ∧
          front.length ≠ missing + 1) ∨
      ∃ found left,
        (∀ rest,
            continuation (missing + 1) (front ++ rest) =
              (found, left ++ rest)) ∧
          left.length ≤ front.length ∧
          (unfinished bytes missing).feedAll front =
            ((idle.feedAll left).1,
              (if found.length = missing + 1 then
                  character (bytes ++ found)
                else
                  replacement) ::
                (idle.feedAll left).2) := by
  induction front generalizing bytes missing with
  | nil => exact .inl ⟨bytes, missing, rfl, rfl, by simp⟩
  | cons byte front ih =>
      by_cases continues : isContinuation byte = true
      · cases missing with
        | zero =>
            refine .inr ⟨[byte], front, ?_, by simp, ?_⟩
            · intro rest
              simp [continuation, continues]
            · simp [feedAll_cons, feed, continues]
        | succ missing =>
            have fed :
                (unfinished bytes (missing + 1)).feed byte =
                  (unfinished (bytes ++ [byte]) missing, []) := by
              simp [feed, continues]
            rw [feedAll_cons, fed]
            rcases ih (bytes ++ [byte]) missing with
              ⟨pending, count, state, read, short⟩ |
                ⟨found, left, read, shorter, state⟩
            · refine .inl ⟨pending, count, ?_, ?_, by simpa using short⟩
              · simp [state]
              · rw [continuation, if_pos continues, read]
                rfl
            · refine .inr ⟨byte :: found, left, ?_, ?_, ?_⟩
              · intro rest
                rw [List.cons_append, continuation, if_pos continues,
                  read rest]
                rfl
              · exact Nat.le_succ_of_le shorter
              · simp [state]
      · refine .inr ⟨[], byte :: front, ?_, Nat.le_refl _, ?_⟩
        · intro rest
          rw [List.cons_append, continuation, if_neg continues]
        · simp [feedAll_cons, feed, continues]

theorem begin_eq (byte : UInt8) :
    (∃ character, begin byte = (idle, [character])) ∨
      ∃ decoder, begin byte = (decoder, []) := by
  unfold begin
  split
  · exact .inl ⟨_, rfl⟩
  · split
    · exact .inr ⟨_, rfl⟩
    · exact .inl ⟨_, rfl⟩

/--
A byte completes at most one character, which leaves the decoder idle, and may
have to mark an unfinished sequence first.
-/
theorem feed_eq (decoder : Decoder) (byte : UInt8) :
    ∃ marks : Text,
      (marks = [] ∨ marks = [replacement]) ∧
        ((∃ character, decoder.feed byte = (idle, marks ++ [character])) ∨
          ∃ next, decoder.feed byte = (next, marks)) := by
  cases decoder with
  | idle => exact ⟨[], .inl rfl, begin_eq byte⟩
  | unfinished bytes missing =>
      by_cases continues : isContinuation byte = true
      · refine ⟨[], .inl rfl, ?_⟩
        cases missing with
        | zero =>
            exact .inl ⟨character (bytes ++ [byte]), by
              simp [feed, continues]⟩
        | succ missing =>
            exact .inr ⟨unfinished (bytes ++ [byte]) missing, by
              simp [feed, continues]⟩
      · refine ⟨[replacement], .inr rfl, ?_⟩
        rcases begin_eq byte with ⟨character, begun⟩ | ⟨next, begun⟩
        · exact .inl ⟨character, by simp [feed, continues, begun]⟩
        · exact .inr ⟨next, by simp [feed, continues, begun]⟩

theorem finish_eq (decoder : Decoder) :
    decoder.finish = [] ∨ decoder.finish = [replacement] := by
  cases decoder with
  | idle => exact .inl rfl
  | unfinished bytes missing => exact .inr rfl

end Decoder

theorem ne_zero_of_announced?_eq_some
    {first : UInt8} {count : Nat}
    (announces : announced? first = some count) :
    count ≠ 0 := by
  unfold announced? at announces
  split_ifs at announces <;> cases announces <;> simp

/--
An idle decoder that is given some bytes either is in the middle of their only
character, or has taken the first character off them and goes on behind it.
-/
theorem Decoder.feedAll_idle_cons (first : UInt8) (front : Bytes) :
    (∃ pending count,
        idle.feedAll (first :: front) = (unfinished pending count, []) ∧
          next? (first :: front) = some (replacement, [])) ∨
      ∃ taken left,
        (∀ rest,
            next? (first :: (front ++ rest)) = some (taken, left ++ rest)) ∧
          left.length ≤ front.length ∧
          idle.feedAll (first :: front) =
            ((idle.feedAll left).1, taken :: (idle.feedAll left).2) := by
  by_cases single : first < 0x80
  · refine
      .inr ⟨Char.ofNat first.toNat, front, ?_, Nat.le_refl _, ?_⟩
    · intro rest
      rw [next?, if_pos single]
    · simp [feedAll_cons, feed, begin, single]
  · cases announces : announced? first with
    | none =>
        refine .inr ⟨replacement, front, ?_, Nat.le_refl _, ?_⟩
        · intro rest
          simp [next?, single, announces]
        · simp [feedAll_cons, feed, begin, single, announces]
    | some count =>
        obtain ⟨missing, rfl⟩ :=
          Nat.exists_eq_succ_of_ne_zero
            (ne_zero_of_announced?_eq_some announces)
        have fed : idle.feed first = (unfinished [first] missing, []) := by
          simp [feed, begin, single, announces]
        rw [feedAll_cons, fed]
        rcases feedAll_unfinished [first] missing front with
          ⟨pending, count, state, read, short⟩ |
            ⟨found, left, read, shorter, state⟩
        · refine .inl ⟨pending, count, by simp [state], ?_⟩
          simp [next?, single, announces, read, short]
        · refine .inr ⟨_, left, ?_, shorter, by rw [state]; rfl⟩
          intro rest
          simp only [next?, if_neg single, announces, read rest]
          split <;> rfl

/-- Decoding takes the first character off and goes on behind it. -/
theorem decode_eq_of_next?_eq_some
    {bytes behind : Bytes} {first : Char}
    (read : next? bytes = some (first, behind)) :
    decode bytes = first :: decode behind := by
  cases bytes with
  | nil => simp [next?] at read
  | cons byte rest =>
      rw [decode, Decoder.run_eq_feedAll_append_finish]
      rcases Decoder.feedAll_idle_cons byte rest with
        ⟨pending, count, state, only⟩ | ⟨taken, left, front, _, state⟩
      · rw [only] at read
        cases read
        rw [state]
        rfl
      · have whole := front []
        rw [List.append_nil, List.append_nil, read] at whole
        cases whole
        rw [state, decode, Decoder.run_eq_feedAll_append_finish]
        rfl

theorem decode_eq_append_of_reads
    {bytes unread : Bytes} {characters : Text}
    (reads : Reads bytes characters unread) :
    decode bytes = characters ++ decode unread := by
  induction reads with
  | nil => rfl
  | cons taken _ ih =>
      rw [decode_eq_of_next?_eq_some taken, ih, List.cons_append]

/-- Decoding to the end takes off all characters and leaves nothing. -/
theorem reads_decode (bytes : Bytes) : Reads bytes (decode bytes) [] := by
  induction size : bytes.length using Nat.strongRecOn
    generalizing bytes with
  | ind size ih =>
      cases bytes with
      | nil => exact .nil []
      | cons byte rest =>
          rcases Decoder.feedAll_idle_cons byte rest with
            ⟨pending, count, state, only⟩ | ⟨taken, left, front, shorter, _⟩
          · rw [decode_eq_of_next?_eq_some only]
            exact .cons only (.nil [])
          · have whole := front []
            rw [List.append_nil, List.append_nil] at whole
            rw [decode_eq_of_next?_eq_some whole]
            rw [List.length_cons] at size
            exact .cons whole (ih left.length (by omega) left rfl)

/--
A decoder that is idle before and behind some bytes has taken whole characters
off them: what follows the bytes is not touched.
-/
theorem reads_of_feedAll_idle
    {bytes : Bytes} (whole : (Decoder.idle.feedAll bytes).1 = .idle)
    (rest : Bytes) :
    Reads (bytes ++ rest) (Decoder.idle.feedAll bytes).2 rest := by
  induction size : bytes.length using Nat.strongRecOn
    generalizing bytes with
  | ind size ih =>
      cases bytes with
      | nil => exact .nil rest
      | cons byte front =>
          rcases Decoder.feedAll_idle_cons byte front with
            ⟨pending, count, state, _⟩ | ⟨taken, left, read, shorter, state⟩
          · rw [state] at whole
            cases whole
          · rw [state] at whole ⊢
            rw [List.length_cons] at size
            exact .cons (read rest) (ih left.length (by omega) whole rfl)

end Utf8

end InteractiveShell
