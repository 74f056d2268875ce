import InteractiveShell.Proofs.Execution.Frame
import InteractiveShell.Proofs.FileSystem.Naming

/-!
# Lines keep the names in directories

A line changes directories only where it opens the target of a redirection and where a program does
so.  So a fact about the files that neither opening nor writing a file destroys is kept by every
line, if programs keep it.  That directories are well named is such a fact, and that no directory
holds a name twice is another one.
-/

namespace InteractiveShell

/-- Neither opening nor writing a file destroys a fact about the files. -/
structure FileSystem.Lasting (fact : FileSystem → Prop) : Prop where
  openForWriting :
    ∀ {files after : FileSystem} {current : NodeId} {path : Text}
        {mode : WriteMode} {handle : Handle},
      fact files →
        files.openForWriting current path mode = .ok (handle, after) →
          fact after
  write :
    ∀ {files after : FileSystem} {handle moved : Handle} {bytes : Bytes}
        {taken : Nat},
      fact files →
        files.write handle bytes = .ok (taken, moved, after) → fact after

theorem FileSystem.lasting_wellNamed :
    FileSystem.Lasting FileSystem.WellNamed where
  openForWriting named opened := named.openForWriting opened
  write named written := named.write written

theorem FileSystem.lasting_distinct :
    FileSystem.Lasting FileSystem.Distinct where
  openForWriting distinct opened := distinct.openForWriting opened
  write distinct written := distinct.write written

/-- A fact about the files holds behind a program wherever it held before. -/
def Launcher.KeepsFact (launcher : Launcher) (fact : FileSystem → Prop) :
    Prop :=
  ∀ world launch, fact world.files → fact (launcher world launch).2

section Lines

variable {fact : FileSystem → Prop}
variable {launcher : Launcher} {world : World}

theorem Delivery.outlet_keeps_fact
    (lasting : FileSystem.Lasting fact) (stream : Stream) :
    (Delivery.outlet stream).Keeps fun delivery =>
      fact delivery.world.files := by
  intro delivery bytes taken after holds written
  rcases Delivery.outlet_eq_ok written with
    ⟨handle, moved, later, _, accepted, rfl⟩ | ⟨_, next, shown, rfl⟩
  · exact lasting.write holds accepted
  · rcases World.outlet_frame shown with ⟨transcript, changed⟩
    rw [changed]
    exact holds

theorem dispatch_keeps_fact
    (keeps : launcher.KeepsFact fact) (holds : fact world.files)
    (arguments : List Text) :
    fact (dispatch launcher world arguments).2.files := by
  rw [dispatch]
  cases world.taskFor arguments with
  | nothing | endSession | notFound => exact holds
  | builtin command rest =>
      rcases command.run_frame world rest with ⟨directory, same⟩
      show fact (command.run world rest).2.files
      rw [same]
      exact holds
  | launch started =>
      show fact (started.run launcher world).2.files
      rw [started.run_frame launcher world]
      exact keeps world started holds

theorem World.openDelivery_keeps_fact
    (lasting : FileSystem.Lasting fact) (holds : fact world.files)
    {redirection? : Option Redirection} {delivery : Delivery}
    (opened : world.openDelivery redirection? = .ok delivery) :
    fact delivery.world.files := by
  unfold openDelivery at opened
  split at opened
  · cases opened
    exact holds
  · split at opened
    · cases opened
    · rename_i handle files target
      cases opened
      exact lasting.openForWriting holds target

theorem Delivery.execute_keeps_fact
    (lasting : FileSystem.Lasting fact) (keeps : launcher.KeepsFact fact)
    {delivery : Delivery} (holds : fact delivery.world.files)
    (arguments : List Text) :
    fact (delivery.execute launcher arguments).2.files := by
  have ran := dispatch_keeps_fact keeps holds arguments
  rcases delivery.execute_world launcher arguments with
    same | ⟨output, same⟩
  · rw [same]
    exact ran
  · rw [same]
    exact
      Delivery.kept_send (Delivery.outlet_keeps_fact lasting) ran output

theorem executeLine_keeps_fact
    (lasting : FileSystem.Lasting fact) (keeps : launcher.KeepsFact fact)
    (holds : fact world.files) (line : Text) :
    fact (executeLine launcher world line).2.files := by
  rcases executeLine_world launcher world line with
    same | ⟨command, delivery, _, opened, same⟩
  · rw [same]
    exact holds
  · have begun := World.openDelivery_keeps_fact lasting holds opened
    rw [same]
    exact
      Delivery.execute_keeps_fact lasting keeps begun command.arguments

theorem executeLine_wellNamed
    (keeps : launcher.KeepsFact FileSystem.WellNamed)
    (named : world.files.WellNamed) (line : Text) :
    (executeLine launcher world line).2.files.WellNamed :=
  executeLine_keeps_fact FileSystem.lasting_wellNamed keeps named line

theorem executeLine_distinct
    (keeps : launcher.KeepsFact FileSystem.Distinct)
    (distinct : world.files.Distinct) (line : Text) :
    (executeLine launcher world line).2.files.Distinct :=
  executeLine_keeps_fact FileSystem.lasting_distinct keeps distinct line

end Lines

end InteractiveShell
