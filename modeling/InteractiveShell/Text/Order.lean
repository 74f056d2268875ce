import InteractiveShell.Text.Basic

/-!
# The order of texts

Texts are ordered by their code points: the first place at which two texts differ decides, and a
text comes before everything that continues it.  `Text.atMost` is that order, ends included.  It is
total, transitive and antisymmetric, so a list of texts has exactly one sorted form without
repetitions.
-/

namespace InteractiveShell

namespace Text

/-- Whether a text comes before another one or equals it. -/
def atMost : Text → Text → Bool
  | [], _ => true
  | _ :: _, [] => false
  | first :: left, second :: right =>
    if first = second then atMost left right else first.toNat < second.toNat

@[simp]
theorem atMost_nil (text : Text) : atMost [] text = true := by
  cases text <;> rfl

@[simp]
theorem atMost_cons_nil (first : Char) (rest : Text) : atMost (first :: rest) [] = false :=
  rfl

@[simp]
theorem atMost_cons_cons (first second : Char) (left right : Text) :
    atMost (first :: left) (second :: right) =
      if first = second then atMost left right else decide (first.toNat < second.toNat) :=
  rfl

/-- Different characters have different code points. -/
theorem toNat_ne_of_ne {first second : Char} (different : first ≠ second) :
    first.toNat ≠ second.toNat := by
  intro same
  apply different
  exact Char.ext (UInt32.toNat_inj.mp same)

@[simp]
theorem atMost_refl (text : Text) : atMost text text = true := by
  induction text with
  | nil => rfl
  | cons first rest hypothesis => simp [hypothesis]

theorem atMost_total (left right : Text) :
    (atMost left right || atMost right left) = true := by
  induction left generalizing right with
  | nil => simp
  | cons first left hypothesis =>
    cases right with
    | nil => simp
    | cons second right =>
      by_cases same : first = second
      · subst same
        simpa using hypothesis right
      · have apart := toNat_ne_of_ne same
        simp only [atMost_cons_cons, if_neg same, if_neg (Ne.symm same), Bool.or_eq_true,
          decide_eq_true_eq]
        omega

theorem atMost_trans (left middle right : Text) :
    atMost left middle = true → atMost middle right = true → atMost left right = true := by
  induction left generalizing middle right with
  | nil => simp
  | cons first left hypothesis =>
    intro before after
    cases middle with
    | nil => simp at before
    | cons second middle =>
      cases right with
      | nil => simp at after
      | cons third right =>
        rw [atMost_cons_cons] at before after ⊢
        by_cases lower : first = second
        · subst lower
          rw [if_pos rfl] at before
          by_cases upper : first = third
          · rw [if_pos upper] at after ⊢
            exact hypothesis middle right before after
          · rw [if_neg upper] at after ⊢
            exact after
        · rw [if_neg lower] at before
          have below := of_decide_eq_true before
          by_cases upper : second = third
          · subst upper
            rw [if_neg lower]
            exact before
          · rw [if_neg upper] at after
            have above := of_decide_eq_true after
            have apart : first ≠ third := by
              intro same
              subst same
              omega
            rw [if_neg apart]
            exact decide_eq_true (by omega)

theorem atMost_antisymm {left right : Text} (before : atMost left right = true)
    (after : atMost right left = true) : left = right := by
  induction left generalizing right with
  | nil =>
    cases right with
    | nil => rfl
    | cons second right => simp at after
  | cons first left hypothesis =>
    cases right with
    | nil => simp at before
    | cons second right =>
      rw [atMost_cons_cons] at before after
      by_cases same : first = second
      · subst same
        rw [if_pos rfl] at before after
        rw [hypothesis before after]
      · rw [if_neg same] at before
        rw [if_neg (Ne.symm same)] at after
        have below := of_decide_eq_true before
        have above := of_decide_eq_true after
        omega

end Text

end InteractiveShell
