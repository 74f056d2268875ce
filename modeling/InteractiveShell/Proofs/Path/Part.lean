import InteractiveShell.Path
import Mathlib.Data.List.Basic
import Mathlib.Tactic.SplitIfs

/-!
# The parts of a path

What is joined to an absolute path stays absolute, so the absolute form of a path is absolute.  The
names in a path are not empty, and no step along it has a slash.  The path of a name below a
directory takes the names of the directory's path and then that name, with or without a slash
behind the directory.
-/

namespace InteractiveShell

namespace Path

/-! ### Joined paths -/

/-- A joined path is the joined one alone, or it has a slash. -/
theorem join_eq_or_slash_mem (directory path : Text) :
    join directory path = path ∨ '/' ∈ join directory path := by
  unfold join
  split_ifs with absolute added
  · exact .inl rfl
  · rcases Bool.or_eq_true_iff.mp added with empty | ended
    · rw [List.isEmpty_iff.mp empty]
      exact .inl rfl
    · have last : '/' ∈ directory := by
        rw [endsInSlash, decide_eq_true_iff] at ended
        exact List.mem_of_getLast? ended
      exact .inr (List.mem_append_left path last)
  · exact .inr (by simp)

theorem isAbsolute_append
    {directory : Text} (absolute : isAbsolute directory = true)
    (rest : Text) :
    isAbsolute (directory ++ rest) = true := by
  rw [isAbsolute, decide_eq_true_iff] at absolute ⊢
  rw [List.head?_append, absolute]
  rfl

theorem isAbsolute_join
    {directory : Text} (absolute : isAbsolute directory = true)
    (path : Text) :
    isAbsolute (join directory path) = true := by
  unfold join
  split_ifs with alone
  · exact alone
  · exact isAbsolute_append absolute path
  · exact isAbsolute_append absolute ('/' :: path)

theorem isAbsolute_foldl_join
    {base : Text} (absolute : isAbsolute base = true) (names : List Text) :
    isAbsolute (names.foldl join base) = true := by
  induction names generalizing base with
  | nil => exact absolute
  | cons name rest ih => exact ih (isAbsolute_join absolute name)

theorem isAbsolute_rootOf (path : Text) :
    isAbsolute (rootOf path) = true := by
  unfold rootOf
  split <;> rfl

/-- Seen from an absolute path, every path has an absolute form. -/
theorem exists_absolute?_eq_some
    {current : Text} (absolute : isAbsolute current = true)
    (path : Text) :
    ∃ whole, absolute? (some current) path = some whole ∧
      isAbsolute whole = true := by
  unfold absolute?
  have based :
      ∃ base,
        (if isAbsolute path then some (rootOf path) else some current) =
            some base ∧
          isAbsolute base = true := by
    split_ifs
    · exact ⟨_, rfl, isAbsolute_rootOf path⟩
    · exact ⟨_, rfl, absolute⟩
  rcases based with ⟨base, chosen, rooted⟩
  rw [chosen]
  refine ⟨_, rfl, ?_⟩
  have joined := isAbsolute_foldl_join rooted (properNames path)
  dsimp only
  split_ifs
  · exact isAbsolute_join joined []
  · exact joined

/-! ### Steps -/

theorem separator_notMem_of_mem_splitOn
    {separator : Char} {text part : Text}
    (member : part ∈ text.splitOn separator) :
    separator ∉ part := by
  rw [List.splitOn_eq_splitOnP] at member
  induction text generalizing part with
  | nil =>
      rw [List.splitOnP_nil, List.mem_singleton] at member
      rw [member]
      exact List.not_mem_nil
  | cons character rest ih =>
      rw [List.splitOnP_cons_eq_if_modifyHead] at member
      split_ifs at member with separates
      · rcases List.mem_cons.mp member with rfl | later
        · exact List.not_mem_nil
        · exact ih later
      · rcases List.exists_cons_of_ne_nil
            (List.splitOnP_ne_nil (fun other => other == separator)
              rest) with
          ⟨first, later, parts⟩
        rw [parts] at member ih
        rcases List.mem_cons.mp member with rfl | behind
        · have differs : character ≠ separator := by simpa using separates
          rw [List.mem_cons, not_or]
          exact ⟨differs.symm, ih List.mem_cons_self⟩
        · exact ih (List.mem_cons_of_mem first behind)

theorem mem_names
    {path name : Text} (member : name ∈ names path) :
    name ≠ [] ∧ '/' ∉ name := by
  rw [names, List.mem_filter] at member
  constructor
  · simpa using member.2
  · exact separator_notMem_of_mem_splitOn member.1

theorem slash_notMem_of_mem_steps
    {path step : Text} (member : step ∈ steps path) :
    '/' ∉ step := by
  rw [steps, List.mem_append] at member
  rcases member with named | last
  · exact (mem_names named).2
  · split_ifs at last
    · rw [List.mem_singleton.mp last]
      exact List.not_mem_nil
    · cases last

/-! ### A name below a directory -/

theorem names_append_slash (front back : Text) :
    names (front ++ '/' :: back) = names front ++ names back := by
  have parts :
      (front ++ '/' :: back).splitOn '/' =
        front.splitOn '/' ++ back.splitOn '/' := by
    simp only [List.splitOn_eq_splitOnP]
    exact List.splitOnP_append_cons front back (beq_self_eq_true '/')
  rw [names, parts, List.filter_append]
  rfl

theorem names_of_flat
    {name : Text} (nonempty : name ≠ []) (flat : '/' ∉ name) :
    names name = [name] := by
  have whole : name.splitOn '/' = [name] := by
    rw [List.splitOn_eq_splitOnP]
    apply List.splitOnP_eq_singleton
    intro character member
    rw [beq_eq_false_iff_ne]
    rintro rfl
    exact flat member
  rw [names, whole]
  simpa using nonempty

section Below

variable {directory name : Text}

/-- A name is joined with one slash between it and the directory. -/
theorem exists_join_eq
    (given : directory ≠ []) (flat : '/' ∉ name) :
    ∃ front,
      join directory name = front ++ '/' :: name ∧
        (directory = front ∨ directory = front ++ ['/']) := by
  have relative : ¬ isAbsolute name = true := by
    rw [isAbsolute, decide_eq_true_iff]
    intro begins
    exact flat (List.mem_of_head? begins)
  rw [join, if_neg relative]
  by_cases ended : endsInSlash directory = true
  · rw [if_pos (by rw [ended, Bool.or_true])]
    rw [endsInSlash, decide_eq_true_iff] at ended
    rcases List.getLast?_eq_some_iff.mp ended with ⟨front, rfl⟩
    refine ⟨front, ?_, .inr rfl⟩
    rw [List.append_assoc]
    rfl
  · rw [if_neg (by simp [given, ended])]
    exact ⟨directory, rfl, .inl rfl⟩

theorem prefix_join
    (given : directory ≠ []) (flat : '/' ∉ name) :
    directory <+: join directory name := by
  rcases exists_join_eq given flat with ⟨front, joined, rfl | rfl⟩
  · exact ⟨'/' :: name, joined.symm⟩
  · refine ⟨name, ?_⟩
    rw [joined, List.append_assoc]
    rfl

theorem names_join
    (given : directory ≠ []) (nonempty : name ≠ []) (flat : '/' ∉ name) :
    names (join directory name) = names directory ++ [name] := by
  rcases exists_join_eq given flat with ⟨front, joined, rfl | rfl⟩
  · rw [joined, names_append_slash, names_of_flat nonempty flat]
  · have same : names (front ++ ['/']) = names front := by
      rw [names_append_slash]
      exact List.append_nil _
    rw [joined, names_append_slash, names_of_flat nonempty flat, same]

theorem steps_join
    (given : directory ≠ []) (nonempty : name ≠ []) (flat : '/' ∉ name) :
    steps (join directory name) = names directory ++ [name] := by
  have unended : ¬ endsInSlash (join directory name) = true := by
    rcases exists_join_eq given flat with ⟨front, joined, _⟩
    rcases List.eq_nil_or_concat' name with rfl | ⟨earlier, last, rfl⟩
    · exact absurd rfl nonempty
    · rw [joined, endsInSlash, decide_eq_true_iff, ← List.cons_append,
        ← List.append_assoc, List.getLast?_concat, Option.some.injEq]
      rintro rfl
      exact flat (List.mem_append_right _ List.mem_cons_self)
  rw [steps, if_neg unended, List.append_nil,
    names_join given nonempty flat]

theorem isAbsolute_of_isPrefix
    {front path : Text} (nonempty : front ≠ []) (begins : front <+: path) :
    isAbsolute path = isAbsolute front := by
  rcases begins with ⟨rest, rfl⟩
  rcases List.exists_cons_of_ne_nil nonempty with ⟨first, others, rfl⟩
  rfl

/-- Only the empty directory adds nothing to a name. -/
theorem join_eq_self_iff (flat : '/' ∉ name) :
    join directory name = name ↔ directory = [] := by
  constructor
  · intro same
    by_contra given
    rcases exists_join_eq given flat with ⟨front, joined, _⟩
    apply flat
    rw [← same, joined]
    exact List.mem_append_right front List.mem_cons_self
  · rintro rfl
    simp [join]

end Below

end Path

end InteractiveShell
