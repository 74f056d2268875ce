import InteractiveShell.Proofs.Outlet.Metering

/-!
# What an outlet takes of some bytes

An outlet may take bytes in portions of any size, and it may fail at any of them.  `Outlet.Takes`
follows the portions that are taken one behind the other, and `Outlet.Refuses` is the answer at
which a run of writes stops.  Whatever the outlet does, the bytes that it takes are the first ones,
each of them once, and the run ends well if and only if they are all (`Outlet.exists_written`).

If an outlet refuses only when its room is used up, the bytes that it takes are as many as there is
room for (`Outlet.HasRoom.eq_upTo_of_written`).
-/

namespace InteractiveShell

section Portions

variable {σ : Type} {outlet : Outlet σ}
variable {state between after : σ} {bytes taken rest : Bytes}

/--
An outlet takes bytes in portions, the others that were handed to it with
them being left over.
-/
inductive Outlet.Takes (outlet : Outlet σ) :
    σ → Bytes → Bytes → σ → Prop where
  | nothing (state : σ) (rest : Bytes) : Takes outlet state [] rest state
  | portion {state between after : σ} {bytes taken rest : Bytes}
      {count : Nat} (nonempty : bytes ≠ [])
      (answer : outlet.write state bytes = .ok (count + 1, between))
      (remains : bytes.drop (count + 1) = taken ++ rest)
      (later : Takes outlet between taken rest after) :
      Takes outlet state (bytes.take (count + 1) ++ taken) rest after

/-- How an outlet refuses bytes: it fails, or it takes none of them and gives no cause. -/
inductive Outlet.Refuses (outlet : Outlet σ) (bytes : Bytes) :
    σ → SystemError → σ → Prop where
  | fails {state : σ} {cause : SystemError}
      (answer : outlet.write state bytes = .error cause) :
      Refuses outlet bytes state cause state
  | takesNone {state after : σ}
      (answer : outlet.write state bytes = .ok (0, after)) :
      Refuses outlet bytes state .nothingTaken after

/--
What comes of writing bytes to an outlet: it takes all of them, or it takes
the first ones and refuses the others.
-/
inductive Outlet.Written (outlet : Outlet σ) (state : σ) (bytes : Bytes) :
    Bytes → Except SystemError Unit × σ → Prop where
  | whole {after : σ} (takes : outlet.Takes state bytes [] after) :
      Written outlet state bytes bytes (.ok (), after)
  | cut {taken rest : Bytes} {between after : σ} {cause : SystemError}
      (pieces : bytes = taken ++ rest) (left : rest ≠ [])
      (takes : outlet.Takes state taken rest between)
      (refuses : outlet.Refuses rest between cause after) :
      Written outlet state bytes taken (.error cause, after)

theorem Outlet.writeAll_nil (outlet : Outlet σ) (state : σ) :
    outlet.writeAll state [] = (.ok (), state) := by
  rw [writeAll]

theorem Outlet.writeAll_of_write
    {count : Nat} (nonempty : bytes ≠ [])
    (answer : outlet.write state bytes = .ok (count + 1, after)) :
    outlet.writeAll state bytes =
      outlet.writeAll after (bytes.drop (count + 1)) := by
  cases bytes with
  | nil => exact absurd rfl nonempty
  | cons first rest =>
      rw [writeAll, answer]
      rfl

theorem Outlet.Takes.writeAll_eq
    (takes : outlet.Takes state taken rest after) :
    outlet.writeAll state (taken ++ rest) = outlet.writeAll after rest := by
  induction takes with
  | nothing state rest => rfl
  | portion nonempty answer remains later ih =>
      rw [List.append_assoc, ← remains, List.take_append_drop,
        Outlet.writeAll_of_write nonempty answer, remains, ih]

theorem Outlet.Refuses.writeAll_eq
    {cause : SystemError} (nonempty : bytes ≠ [])
    (refuses : outlet.Refuses bytes state cause after) :
    outlet.writeAll state bytes = (.error cause, after) := by
  cases bytes with
  | nil => exact absurd rfl nonempty
  | cons first rest =>
      cases refuses with
      | fails answer => rw [writeAll, answer]
      | takesNone answer => rw [writeAll, answer]

theorem Outlet.Written.writeAll_eq
    {result : Except SystemError Unit × σ}
    (written : outlet.Written state bytes taken result) :
    outlet.writeAll state bytes = result := by
  cases written with
  | whole takes =>
      have done := takes.writeAll_eq
      rwa [List.append_nil, writeAll_nil] at done
  | cut pieces left takes refuses =>
      rw [pieces, takes.writeAll_eq, refuses.writeAll_eq left]

/-- The portion that an outlet takes first, before all that it takes later. -/
theorem Outlet.Written.portion
    {count : Nat} {result : Except SystemError Unit × σ}
    (nonempty : bytes ≠ [])
    (answer : outlet.write state bytes = .ok (count + 1, between))
    (later : outlet.Written between (bytes.drop (count + 1)) taken result) :
    outlet.Written state bytes (bytes.take (count + 1) ++ taken) result := by
  cases later with
  | whole takes =>
      have all :=
        Takes.portion nonempty answer (List.append_nil _).symm takes
      rw [List.take_append_drop] at all ⊢
      exact .whole all
  | cut pieces left takes refuses =>
      refine .cut ?_ left (.portion nonempty answer pieces takes) refuses
      rw [List.append_assoc, ← pieces, List.take_append_drop]

theorem Outlet.exists_written
    (outlet : Outlet σ) (state : σ) (bytes : Bytes) :
    ∃ taken,
      outlet.Written state bytes taken (outlet.writeAll state bytes) := by
  fun_induction Outlet.writeAll outlet state bytes with
  | case1 state => exact ⟨[], .whole (.nothing state [])⟩
  | case2 state first rest cause answer =>
      exact
        ⟨[], .cut rfl (List.cons_ne_nil first rest) (.nothing state _)
          (.fails answer)⟩
  | case3 state first rest after answer =>
      exact
        ⟨[], .cut rfl (List.cons_ne_nil first rest) (.nothing state _)
          (.takesNone answer)⟩
  | case4 state first rest count after answer ih =>
      rcases ih with ⟨taken, later⟩
      exact ⟨_, .portion (List.cons_ne_nil first rest) answer later⟩

section Written

variable {result : Except SystemError Unit × σ}

theorem Outlet.Written.taken_prefix
    (written : outlet.Written state bytes taken result) :
    taken <+: bytes := by
  cases written with
  | whole takes => exact List.prefix_refl bytes
  | cut pieces left takes refuses => exact ⟨_, pieces.symm⟩

/-- A run of writes ends well if and only if all is taken. -/
theorem Outlet.Written.eq_ok_iff
    (written : outlet.Written state bytes taken result) :
    result.1 = .ok () ↔ taken = bytes := by
  cases written with
  | whole takes => exact iff_of_true rfl rfl
  | cut pieces left takes refuses =>
      refine iff_of_false (fun ended => nomatch ended) ?_
      intro all
      exact left (List.self_eq_append_right.mp (all.trans pieces))

end Written

end Portions

/-! ### Outlets with room -/

section Room

variable {σ : Type} {outlet : Outlet σ} {room : σ → Option Nat}
variable {state after : σ} {bytes taken rest : Bytes}

/--
An outlet takes a part of every write, however small, as long as there is
room, and fails for good when there is none.
-/
structure Outlet.HasRoom (outlet : Outlet σ) (room : σ → Option Nat) :
    Prop where
  refuses :
    ∀ state bytes, bytes ≠ [] → room state = some 0 →
      ∃ cause, outlet.write state bytes = .error cause
  accepts :
    ∀ state bytes, bytes ≠ [] → room state ≠ some 0 →
      ∃ count after,
        count < bytes.length ∧
          outlet.write state bytes = .ok (count + 1, after) ∧
            UsesUp (room state) (count + 1) (room after)

/-- The first ones of some bytes, as many as there is room for. -/
def Bytes.upTo (bytes : Bytes) (room : Option Nat) : Bytes :=
  room.elim bytes bytes.take

theorem Bytes.upTo_of_usesUp
    {before left : Option Nat} (used : UsesUp before bytes.length left) :
    bytes.upTo before = bytes := by
  cases used with
  | unlimited count => rfl
  | limited count left =>
      exact List.take_of_length_le (Nat.le_add_right bytes.length left)

theorem Bytes.upTo_append_of_usesUp
    {before : Option Nat} (used : UsesUp before taken.length (some 0))
    (rest : Bytes) :
    upTo (taken ++ rest) before = taken := by
  cases used
  exact List.take_left

theorem Outlet.HasRoom.usesUp
    (hasRoom : outlet.HasRoom room)
    (takes : outlet.Takes state taken rest after) :
    UsesUp (room state) taken.length (room after) := by
  induction takes with
  | nothing state rest => exact .zero (room state)
  | @portion state between after bytes taken rest count nonempty answer
      remains later ih =>
      have free : room state ≠ some 0 := by
        intro full
        rcases hasRoom.refuses state bytes nonempty full with ⟨cause, failed⟩
        rw [answer] at failed
        cases failed
      rcases hasRoom.accepts state bytes nonempty free with
        ⟨_, _, short, accepted, used⟩
      rw [answer] at accepted
      cases accepted
      have size : (bytes.take (count + 1)).length = count + 1 :=
        List.length_take_of_le short
      rw [List.length_append, size]
      exact used.add ih

theorem Outlet.HasRoom.room_eq_zero
    (hasRoom : outlet.HasRoom room) {cause : SystemError}
    (nonempty : bytes ≠ [])
    (refuses : outlet.Refuses bytes state cause after) :
    room state = some 0 := by
  refine Decidable.byContradiction fun free => ?_
  rcases hasRoom.accepts state bytes nonempty free with
    ⟨count, later, _, accepted, _⟩
  cases refuses with
  | fails answer =>
      rw [answer] at accepted
      cases accepted
  | takesNone answer =>
      rw [answer] at accepted
      cases accepted

theorem Outlet.HasRoom.eq_upTo_of_written
    (hasRoom : outlet.HasRoom room)
    {result : Except SystemError Unit × σ}
    (written : outlet.Written state bytes taken result) :
    taken = bytes.upTo (room state) := by
  cases written with
  | whole takes => exact (Bytes.upTo_of_usesUp (hasRoom.usesUp takes)).symm
  | cut pieces left takes refuses =>
      have used := hasRoom.usesUp takes
      rw [hasRoom.room_eq_zero left refuses] at used
      rw [pieces, Bytes.upTo_append_of_usesUp used]

/-- A metered outlet fails only for want of room. -/
theorem Outlet.Metered.hasRoom
    {meter : Meter σ} (metered : outlet.Metered meter) :
    outlet.HasRoom meter.room := by
  constructor
  · intro state bytes nonempty full
    exact ⟨.brokenPipe, metered.refuses state bytes nonempty full⟩
  · intro state bytes nonempty free
    rcases metered.accepts state bytes nonempty free with
      ⟨front, back, after, pieces, begun, answer, _, used⟩
    have positive : 0 < front.length := List.length_pos_iff.mpr begun
    have size : front.length - 1 + 1 = front.length :=
      Nat.sub_add_cancel positive
    refine ⟨front.length - 1, after, ?_, ?_, ?_⟩
    · rw [pieces, List.length_append]
      omega
    · rw [size, answer]
    · rwa [size]

/-- An outlet that takes at most one byte of every write. -/
def Outlet.bytewise (outlet : Outlet σ) : Outlet σ where
  write state bytes := outlet.write state (bytes.take 1)

theorem Outlet.HasRoom.bytewise
    (hasRoom : outlet.HasRoom room) : outlet.bytewise.HasRoom room := by
  have begun {bytes : Bytes} (nonempty : bytes ≠ []) : bytes.take 1 ≠ [] := by
    simpa using nonempty
  constructor
  · intro state bytes nonempty full
    exact hasRoom.refuses state (bytes.take 1) (begun nonempty) full
  · intro state bytes nonempty free
    rcases hasRoom.accepts state (bytes.take 1) (begun nonempty) free with
      ⟨count, after, short, answer, used⟩
    exact
      ⟨count, after,
        Nat.lt_of_lt_of_le short (List.length_take_le' 1 bytes), answer,
        used⟩

end Room

/-! ### Outlets on a part of a state -/

section Part

variable {σ ρ : Type} {outlet : Outlet σ}
variable {part : ρ → σ} {put : ρ → σ → ρ}

/-- An outlet whose state is a part of a larger one. -/
def Outlet.onPart (outlet : Outlet σ) (part : ρ → σ) (put : ρ → σ → ρ) :
    Outlet ρ where
  write whole bytes :=
    (outlet.write (part whole) bytes).map fun (taken, after) =>
      (taken, put whole after)

theorem Outlet.HasRoom.onPart
    {room : σ → Option Nat} (hasRoom : outlet.HasRoom room)
    (part_put : ∀ whole after, part (put whole after) = after) :
    (outlet.onPart part put).HasRoom fun whole => room (part whole) := by
  constructor
  · intro whole bytes nonempty full
    rcases hasRoom.refuses (part whole) bytes nonempty full with
      ⟨cause, failed⟩
    exact ⟨cause, by simp [Outlet.onPart, failed, Except.map]⟩
  · intro whole bytes nonempty free
    rcases hasRoom.accepts (part whole) bytes nonempty free with
      ⟨count, after, short, answer, used⟩
    refine ⟨count, put whole after, short, ?_, ?_⟩
    · simp [Outlet.onPart, answer, Except.map]
    · rwa [part_put]

/-- An outlet on one part of a state leaves what can be seen of the others. -/
theorem Outlet.keeps_onPart
    {α : Type} {view : ρ → α}
    (view_put : ∀ whole after, view (put whole after) = view whole)
    (seen : α) :
    (outlet.onPart part put).Keeps fun whole => view whole = seen := by
  intro whole bytes taken later same written
  rw [Outlet.onPart] at written
  rcases answer : outlet.write (part whole) bytes with cause | ⟨count, after⟩
  · simp [answer, Except.map] at written
  · simp only [answer, Except.map, Except.ok.injEq, Prod.mk.injEq] at written
    rw [← written.2, view_put, same]

end Part

end InteractiveShell
