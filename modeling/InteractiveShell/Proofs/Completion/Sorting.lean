import InteractiveShell.Proofs.Completion.Candidate
import Mathlib.Data.List.Sort

/-!
# Candidates in order

Sorting puts equal names next to each other, so dropping the names that equal their neighbour leaves
each of them once.  What is left is strictly increasing, and there is only one strictly increasing
list with given members.  Hence the candidates for a longer text are those for a shorter one that
begin with the longer text.
-/

namespace InteractiveShell

namespace Text

/-- A text comes before another one and does not equal it. -/
def Before (left right : Text) : Prop :=
  right.atMost left = false

theorem not_before_self (text : Text) : ¬ Before text text := by
  simp [Before]

theorem Before.asymm {left right : Text} (before : Before left right) :
    ¬ Before right left := by
  intro after
  have total := atMost_total left right
  rw [Before] at before after
  simp [before, after] at total

instance : Std.Irrefl Before where
  irrefl := not_before_self

instance : Std.Antisymm Before where
  antisymm _ _ before after := absurd after before.asymm

theorem before_of_atMost_of_ne {left right : Text}
    (atMost : left.atMost right = true) (different : left ≠ right) :
    Before left right := by
  rw [Before, Bool.eq_false_iff]
  intro after
  exact different (atMost_antisymm atMost after)

theorem Before.trans_atMost {left middle right : Text}
    (before : Before left middle) (atMost : middle.atMost right = true) :
    Before left right := by
  rw [Before, Bool.eq_false_iff] at before ⊢
  intro after
  exact before (atMost_trans middle right left atMost after)

end Text

/-! ### Dropping repetitions -/

section Repetitions

variable {α : Type} [BEq α]

theorem eraseRepsBy_loop_eq
    (first : α) (rest collected : List α) :
    List.eraseRepsBy.loop (· == ·) first rest collected =
      collected.reverse ++ (first :: rest).eraseReps := by
  show _ =
    collected.reverse ++ List.eraseRepsBy.loop (· == ·) first rest []
  induction rest generalizing first collected with
  | nil => simp [List.eraseRepsBy.loop]
  | cons second rest ih =>
      rw [List.eraseRepsBy.loop, List.eraseRepsBy.loop]
      split
      · exact ih first collected
      · rw [ih second (first :: collected), ih second [first]]
        simp

theorem eraseReps_cons_cons [LawfulBEq α] (first second : α) (rest : List α) :
    (first :: second :: rest).eraseReps =
      if first == second then (second :: rest).eraseReps
      else first :: (second :: rest).eraseReps := by
  show List.eraseRepsBy.loop (· == ·) first (second :: rest) [] = _
  rw [List.eraseRepsBy.loop]
  split
  · rename_i same
    rw [if_pos same, eq_of_beq same]
    rfl
  · rename_i different
    rw [if_neg (by simp [different]), eraseRepsBy_loop_eq]
    rfl

end Repetitions

/-- Where equal names are neighbours, dropping repetitions leaves each name once. -/
theorem pairwise_before_eraseReps
    {names : List Text}
    (sorted : names.Pairwise fun left right => left.atMost right = true) :
    names.eraseReps.Pairwise Text.Before := by
  induction names with
  | nil => exact .nil
  | cons first names ih =>
      cases names with
      | nil => exact List.pairwise_singleton _ _
      | cons second rest =>
          have later := ih sorted.tail
          rw [eraseReps_cons_cons]
          split
          · exact later
          · rename_i different
            have apart : first ≠ second := by simpa using different
            have next : Text.Before first second :=
              Text.before_of_atMost_of_ne
                (List.rel_of_pairwise_cons sorted List.mem_cons_self) apart
            refine later.cons ?_
            intro name member
            rcases List.mem_cons.mp (mem_eraseReps.mp member) with
              rfl | behind
            · exact next
            · exact
                next.trans_atMost
                  (List.rel_of_pairwise_cons sorted.tail behind)

theorem pairwise_before_sortedNames (names : List Text) :
    (sortedNames names).Pairwise Text.Before :=
  pairwise_before_eraseReps
    (List.pairwise_mergeSort Text.atMost_trans Text.atMost_total names)

/-! ### Candidates for a longer text -/

/-- A completer that offers for a longer text those of its candidates that begin with it. -/
def Completer.Narrows (completer : Completer) : Prop :=
  ∀ ⦃shorter longer : Text⦄, shorter <+: longer →
    completer longer = (completer shorter).filter longer.isPrefixOf

theorem World.candidates_narrows (world : World) (names : List Text) :
    Completer.Narrows (world.candidates names) := by
  intro shorter longer begins
  refine
    (pairwise_before_sortedNames _).eq_of_mem_iff
      ((pairwise_before_sortedNames _).filter _) ?_
  intro name
  show name ∈ world.candidates names longer ↔
    name ∈ (world.candidates names shorter).filter longer.isPrefixOf
  rw [List.mem_filter, List.isPrefixOf_iff_prefix, mem_candidates_iff,
    mem_candidates_iff]
  constructor
  · rintro ⟨front, source⟩
    exact ⟨⟨begins.trans front, source⟩, front⟩
  · rintro ⟨⟨_, source⟩, front⟩
    exact ⟨front, source⟩

end InteractiveShell
