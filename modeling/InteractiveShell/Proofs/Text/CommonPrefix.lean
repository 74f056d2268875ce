import InteractiveShell.Text.CommonPrefix

/-!
# What texts have in common

`longestCommonPrefix` narrows the first text of a list down by the others.  What it leaves is a
beginning of each of them, and of all texts with which each of them begins it is the longest.
-/

namespace InteractiveShell

/-- The longest text with which all of some texts begin. -/
structure IsLongestCommon (texts : List Text) (common : Text) : Prop where
  begins : ∀ text ∈ texts, common <+: text
  longest :
    ∀ other, (∀ text ∈ texts, other <+: text) →
      other.length ≤ common.length

theorem prefix_commonPrefix_iff {beginning left right : Text} :
    beginning <+: commonPrefix left right ↔
      beginning <+: left ∧ beginning <+: right := by
  fun_induction commonPrefix left right generalizing beginning with
  | case1 first left right ih =>
      cases beginning with
      | nil => simp
      | cons character rest =>
          simp only [List.cons_prefix_cons, ih]
          constructor
          · rintro ⟨same, front, back⟩
            exact ⟨⟨same, front⟩, same, back⟩
          · rintro ⟨⟨same, front⟩, _, back⟩
            exact ⟨same, front, back⟩
  | case2 first left second right different =>
      cases beginning with
      | nil => simp
      | cons character rest =>
          constructor
          · intro begins
            exact absurd (List.prefix_nil.mp begins) (List.cons_ne_nil _ _)
          · rintro ⟨front, back⟩
            rw [List.cons_prefix_cons] at front back
            exact absurd (front.1.symm.trans back.1) different
  | case3 left right short =>
      constructor
      · intro begins
        rw [List.prefix_nil.mp begins]
        exact ⟨List.nil_prefix, List.nil_prefix⟩
      · rintro ⟨front, back⟩
        cases left with
        | nil => exact front
        | cons first left =>
            cases right with
            | nil => exact back
            | cons second right =>
                exact absurd rfl (short first left second right rfl)

theorem prefix_longestCommonPrefix_iff
    {beginning first : Text} {rest : List Text} :
    beginning <+: longestCommonPrefix (first :: rest) ↔
      ∀ text ∈ first :: rest, beginning <+: text := by
  rw [longestCommonPrefix]
  induction rest generalizing first with
  | nil => simp
  | cons second rest ih =>
      rw [List.foldl_cons, ih]
      simp only [List.forall_mem_cons, prefix_commonPrefix_iff, and_assoc]

theorem longestCommonPrefix_prefix_head (first : Text) (rest : List Text) :
    longestCommonPrefix (first :: rest) <+: first :=
  prefix_longestCommonPrefix_iff.mp (List.prefix_refl _) first
    List.mem_cons_self

theorem isLongestCommon_longestCommonPrefix
    {texts : List Text} (nonempty : texts ≠ []) :
    IsLongestCommon texts (longestCommonPrefix texts) := by
  cases texts with
  | nil => exact absurd rfl nonempty
  | cons first rest =>
      constructor
      · exact prefix_longestCommonPrefix_iff.mp (List.prefix_refl _)
      · intro other begins
        exact (prefix_longestCommonPrefix_iff.mpr begins).length_le

theorem IsLongestCommon.eq
    {texts : List Text} {common other : Text} (nonempty : texts ≠ [])
    (first : IsLongestCommon texts common)
    (second : IsLongestCommon texts other) :
    common = other := by
  rcases List.exists_mem_of_ne_nil texts nonempty with ⟨text, member⟩
  have shorter := second.longest common first.begins
  have longer := first.longest other second.begins
  have beginning : common <+: other :=
    List.prefix_of_prefix_length_le (first.begins text member)
      (second.begins text member) shorter
  exact beginning.eq_of_length (Nat.le_antisymm shorter longer)

end InteractiveShell
