import InteractiveShell.Execution
import InteractiveShell.Proofs.Outlet.Keeping

/-!
# What a line leaves as it is

A command changes files and the working directory and nothing else, and a delivery adds to files
and to the transcript and does nothing else.  So no line changes the environment of the shell or
what its standard output is connected to.
-/

namespace InteractiveShell

namespace World

theorem changeDirectory_frame
    {world moved : World} {path : Text}
    (changed : world.changeDirectory path = .ok moved) :
    ∃ directory, moved = { world with directory := directory } := by
  rw [changeDirectory] at changed
  split at changed
  · cases changed
  · rename_i directory _
    cases changed
    exact ⟨directory, rfl⟩

theorem cd_frame (world : World) (arguments : List Text) :
    ∃ directory,
      (world.cd arguments).2 = { world with directory := directory } := by
  rw [cd]
  split
  · exact ⟨world.directory, rfl⟩
  · split
    · rename_i changed
      exact changeDirectory_frame changed
    · exact ⟨world.directory, rfl⟩

end World

/-- A builtin command changes the working directory at most. -/
theorem Builtin.run_frame
    (builtin : Builtin) (world : World) (arguments : List Text) :
    ∃ directory,
      (builtin.run world arguments).2 =
        { world with directory := directory } := by
  cases builtin with
  | exit => exact ⟨world.directory, rfl⟩
  | echo => exact ⟨world.directory, rfl⟩
  | type => exact ⟨world.directory, rfl⟩
  | pwd => exact ⟨world.directory, rfl⟩
  | cd => exact world.cd_frame arguments

/-- A program changes files at most, and just as its launcher says. -/
theorem Launch.run_frame
    (launch : Launch) (launcher : Launcher) (world : World) :
    (launch.run launcher world).2 =
      { world with files := (launcher world launch).2 } := by
  rcases answered : launcher world launch with ⟨result, files⟩
  rw [run, answered]
  cases result <;> rfl

/-- A command changes files and the working directory at most. -/
theorem dispatch_frame
    (launcher : Launcher) (world : World) (arguments : List Text) :
    ∃ files directory,
      (dispatch launcher world arguments).2 =
        { world with files := files, directory := directory } := by
  rw [dispatch]
  cases world.taskFor arguments with
  | nothing => exact ⟨world.files, world.directory, rfl⟩
  | endSession => exact ⟨world.files, world.directory, rfl⟩
  | notFound name => exact ⟨world.files, world.directory, rfl⟩
  | builtin command rest =>
      rcases command.run_frame world rest with ⟨directory, same⟩
      exact ⟨world.files, directory, same⟩
  | launch started =>
      exact
        ⟨(launcher world started).2, world.directory,
          started.run_frame launcher world⟩

/-- A write to one of the shell's own streams adds to the transcript at most. -/
theorem World.outlet_frame
    {stream : Stream} {world after : World} {bytes : Bytes} {taken : Nat}
    (written :
      (World.outlet stream).write world bytes = .ok (taken, after)) :
    ∃ transcript, after = { world with transcript := transcript } := by
  simp only [World.outlet] at written
  split at written
  · rename_i device _
    rcases accepted : device.accept bytes with cause | count
    · rw [accepted] at written
      cases written
    · rw [accepted] at written
      cases written
      exact ⟨world.transcript, rfl⟩
  · cases written
    exact ⟨_, rfl⟩

/-- Two worlds that differ in files and transcript at most. -/
def World.SameApart (world other : World) : Prop :=
  ∃ files transcript,
    other = { world with files := files, transcript := transcript }

/-- A write to a stream goes to the file that the stream is led to, or else to the terminal. -/
theorem Delivery.outlet_eq_ok
    {stream : Stream} {delivery after : Delivery} {bytes : Bytes}
    {taken : Nat}
    (written :
      (Delivery.outlet stream).write delivery bytes = .ok (taken, after)) :
    (∃ handle moved files,
      delivery.redirected = some (stream, handle) ∧
        delivery.world.files.write handle bytes =
          .ok (taken, moved, files) ∧
        after =
          ⟨{ delivery.world with files := files }, some (stream, moved)⟩) ∨
    (delivery.redirected.map Prod.fst ≠ some stream ∧
      ∃ world,
        (World.outlet stream).write delivery.world bytes =
            .ok (taken, world) ∧
          after = { delivery with world := world }) := by
  rcases delivery with ⟨world, _ | ⟨source, handle⟩⟩
  · right
    rcases shown : (World.outlet stream).write world bytes with
      cause | ⟨count, next⟩
    · simp [Delivery.outlet, shown, Except.map] at written
    · simp only [Delivery.outlet, shown, Except.map] at written
      cases written
      exact ⟨nofun, next, rfl, rfl⟩
  · by_cases same : source = stream
    · left
      subst same
      simp only [Delivery.outlet, if_pos] at written
      split at written
      · cases written
      · rename_i moved files answered
        cases written
        exact ⟨handle, moved, files, rfl, answered, rfl⟩
    · right
      rcases shown : (World.outlet stream).write world bytes with
        cause | ⟨count, next⟩
      · simp [Delivery.outlet, same, shown, Except.map] at written
      · simp only [Delivery.outlet, if_neg same, shown, Except.map]
          at written
        cases written
        exact ⟨by simpa using same, next, rfl, rfl⟩

theorem Delivery.outlet_keeps (stream : Stream) (world : World) :
    (Delivery.outlet stream).Keeps fun delivery =>
      world.SameApart delivery.world := by
  rintro delivery bytes taken after ⟨files, transcript, same⟩ written
  rcases Delivery.outlet_eq_ok written with
    ⟨handle, moved, later, _, _, rfl⟩ | ⟨_, next, shown, rfl⟩
  · exact ⟨later, transcript, by rw [same]⟩
  · rcases World.outlet_frame shown with ⟨later, changed⟩
    exact ⟨files, later, by rw [changed, same]⟩

/-- What writes to both streams keep is kept by a delivery. -/
theorem Delivery.kept_send
    {kept : Delivery → Prop}
    (keeps : ∀ stream, (Delivery.outlet stream).Keeps kept)
    {delivery : Delivery} (holds : kept delivery) (output : Output) :
    kept (delivery.send output).2 := by
  have errors := (keeps .stderr).writeAll holds output.stderr
  rw [send, deliver]
  split
  · rename_i failed
    rw [failed] at errors
    exact errors
  · rename_i delivered
    rw [delivered] at errors
    exact (keeps .stdout).writeAll errors output.stdout

/-- A delivery changes files and the transcript at most. -/
theorem Delivery.send_frame (delivery : Delivery) (output : Output) :
    delivery.world.SameApart (delivery.send output).2.world := by
  have begins : delivery.world.SameApart delivery.world :=
    ⟨delivery.world.files, delivery.world.transcript, rfl⟩
  exact
    Delivery.kept_send (Delivery.outlet_keeps · delivery.world) begins
      output

theorem World.openDelivery_frame
    {world : World} {redirection? : Option Redirection}
    {delivery : Delivery}
    (opened : world.openDelivery redirection? = .ok delivery) :
    ∃ files busy,
      delivery.world = { world with files := files, busy := busy } := by
  unfold World.openDelivery at opened
  split at opened
  · cases opened
    exact ⟨world.files, world.busy, rfl⟩
  · split at opened
    · cases opened
    · cases opened
      exact ⟨_, _, rfl⟩

/-- Two worlds with the same environment and the same connection of standard output. -/
def World.SameTerms (world other : World) : Prop :=
  other.environment = world.environment ∧ other.output = world.output

/-- Running a command leaves the world as the arguments left it, or as a delivery then did. -/
theorem Delivery.execute_world
    (delivery : Delivery) (launcher : Launcher) (arguments : List Text) :
    let dispatched :=
      { delivery with
        world := (dispatch launcher delivery.world arguments).2 }
    (delivery.execute launcher arguments).2 = dispatched.close ∨
      ∃ output,
        (delivery.execute launcher arguments).2 =
          (dispatched.send output).2.close := by
  intro dispatched
  rw [execute]
  rcases ran : dispatch launcher delivery.world arguments with
    ⟨action, world⟩
  have same : dispatched = { delivery with world := world } := by
    simp only [dispatched, ran]
  cases action with
  | exit code =>
      left
      rw [same]
  | endSession =>
      left
      rw [same]
  | output output =>
      right
      refine ⟨output, ?_⟩
      rw [same]
      simp only
      split
      · rename_i sent
        rw [sent]
      · rename_i sent
        rw [sent]

/-- A line leaves the world as it is, or as its command left it behind an opened target. -/
theorem executeLine_world
    (launcher : Launcher) (world : World) (line : Text) :
    (executeLine launcher world line).2 = world ∨
      ∃ (command : Command) (delivery : Delivery),
        Command.ofLine line = .ok command ∧
          world.openDelivery command.redirection = .ok delivery ∧
            (executeLine launcher world line).2 =
              (delivery.execute launcher command.arguments).2 := by
  rw [executeLine]
  cases Command.ofLine line with
  | error error => exact .inl rfl
  | ok command =>
      simp only [Command.execute]
      split
      · exact .inl rfl
      · split
        · exact .inl rfl
        · rename_i delivery opened
          exact .inr ⟨command, delivery, rfl, opened, rfl⟩

theorem Delivery.execute_sameTerms
    (delivery : Delivery) (launcher : Launcher) (arguments : List Text) :
    delivery.world.SameTerms
      (delivery.execute launcher arguments).2 := by
  rcases dispatch_frame launcher delivery.world arguments with
    ⟨files, directory, ran⟩
  rcases delivery.execute_world launcher arguments with
    same | ⟨output, same⟩
  · rw [same, close, ran]
    exact ⟨rfl, rfl⟩
  · rcases Delivery.send_frame
        { delivery with
          world := (dispatch launcher delivery.world arguments).2 }
        output with
      ⟨later, transcript, sent⟩
    rw [same, close, sent, ran]
    exact ⟨rfl, rfl⟩

/-- No line changes the environment or the connection of standard output. -/
theorem executeLine_sameTerms
    (launcher : Launcher) (world : World) (line : Text) :
    world.SameTerms (executeLine launcher world line).2 := by
  rcases executeLine_world launcher world line with
    same | ⟨command, delivery, _, opened, same⟩
  · rw [same]
    exact ⟨rfl, rfl⟩
  · rcases World.openDelivery_frame opened with ⟨files, busy, begun⟩
    have executed :=
      delivery.execute_sameTerms launcher command.arguments
    rw [begun] at executed
    rw [same]
    exact executed

end InteractiveShell
