import InteractiveShell.Proofs.Text.Chunk

/-!
# Sequences that are still unfinished

Some bytes complete characters, whatever comes behind them.  What they leave is nothing, or the
front of a sequence that announces more bytes than have come.  Which character such a front belongs
to is open: the next byte may continue it or show that it is malformed.
-/

namespace InteractiveShell

namespace Utf8

/-- The front of a sequence that announces more bytes than are there. -/
def Unfinished (bytes : Bytes) : Prop :=
  ∃ first continued count,
    bytes = first :: continued ∧
      announced? first = some count ∧
        continued.length < count ∧
          ∀ byte ∈ continued, isContinuation byte = true

/-- The characters that some bytes complete. -/
def completed (bytes : Bytes) : Text :=
  (Decoder.idle.feedAll bytes).2

/--
Some bytes complete some characters: these are taken off the bytes whatever
comes behind, and what is left of the bytes completes no further one.
-/
structure Completes (bytes : Bytes) (characters : Text) (left : Bytes) :
    Prop where
  reads : ∀ more, Reads (bytes ++ more) characters (left ++ more)
  waits : left = [] ∨ Unfinished left

/-- A decoder that completes no character is in the middle of a sequence. -/
theorem unfinished_of_feedAll_idle
    {first : UInt8} {front : Bytes}
    (silent : (Decoder.idle.feedAll (first :: front)).2 = []) :
    Unfinished (first :: front) := by
  rw [Decoder.feedAll_cons] at silent
  rcases List.append_eq_nil_iff.mp silent with ⟨begun, silent⟩
  by_cases single : first < 0x80
  · simp [Decoder.feed, Decoder.begin, single] at begun
  · cases announces : announced? first with
    | none => simp [Decoder.feed, Decoder.begin, single, announces] at begun
    | some count =>
        obtain ⟨missing, rfl⟩ :=
          Nat.exists_eq_succ_of_ne_zero
            (ne_zero_of_announced?_eq_some announces)
        have fed :
            Decoder.idle.feed first = (.unfinished [first] missing, []) := by
          simp [Decoder.feed, Decoder.begin, single, announces]
        rw [fed] at silent
        rcases Decoder.feedAll_unfinished [first] missing front with
          ⟨_, _, _, taken, short⟩ | ⟨_, _, _, _, state⟩
        · have spec := continuation_spec (missing + 1) front
          rw [taken] at spec
          exact
            ⟨first, front, missing + 1, rfl, announces,
              Nat.lt_of_le_of_ne spec.2.1 short, spec.2.2⟩
        · rw [state] at silent
          cases silent

theorem exists_completes (bytes : Bytes) :
    ∃ left, Completes bytes (completed bytes) left := by
  induction size : bytes.length using Nat.strongRecOn
    generalizing bytes with
  | ind size ih =>
      cases bytes with
      | nil => exact ⟨[], Reads.nil, .inl rfl⟩
      | cons first front =>
          rcases Decoder.feedAll_idle_cons first front with
            ⟨_, _, state, _⟩ | ⟨taken, left, read, shorter, state⟩
          · have silent := congrArg Prod.snd state
            refine
              ⟨first :: front, ?_, .inr (unfinished_of_feedAll_idle silent)⟩
            intro more
            rw [completed, silent]
            exact .nil _
          · rw [List.length_cons] at size
            rcases ih left.length (by omega) left rfl with
              ⟨last, reads, waits⟩
            refine ⟨last, ?_, waits⟩
            intro more
            rw [completed, state]
            exact .cons (read more) (reads more)

end Utf8

end InteractiveShell
