import InteractiveShell.Proofs.Execution.Sending
import InteractiveShell.Proofs.Execution.Stages
import Mathlib

/-!
# Output accumulates from line to line

Each line opens the target of its redirection anew, so what a file holds after many lines is decided
by all the lines that name it.  `Writing.contentAfter` says it in closed form: what the lines wrote
from the last one on that emptied the file, behind what the file held at first if none did.
`executeLines_accumulates` proves it of any lines that the shell executes one after the other, and
that everything else they put out is on the terminal, in order and once.
-/

namespace InteractiveShell

/-! ### What several writings leave in a file -/

/-- What a line writes to the file that its redirection names. -/
structure Writing where
  node : NodeId
  mode : WriteMode
  bytes : Bytes

namespace Writing

def truncates (writing : Writing) : Bool :=
  writing.mode = .truncate

/-- The writings from the last one on that empties the file, or all if none does. -/
def sinceTruncation : List Writing → List Writing
  | [] => []
  | first :: later =>
    if later.any truncates then sinceTruncation later else first :: later

/-- What a file holds after some writings to it, behind what it held before if they keep that. -/
def accumulated (original : Bytes) (writings : List Writing) : Bytes :=
  (if writings.any truncates then [] else original) ++
    (sinceTruncation writings).flatMap bytes

/-- The content of a file, which need not have been there, after some writings to it. -/
def contentAfter (content? : Option Bytes) (writings : List Writing) :
    Option Bytes :=
  if writings.isEmpty then content?
  else some (accumulated (content?.getD []) writings)

theorem sinceTruncation_eq_self
    {writings : List Writing} (kept : ¬ writings.any truncates = true) :
    sinceTruncation writings = writings := by
  cases writings with
  | nil => rfl
  | cons first later =>
      rw [List.any_cons, Bool.or_eq_true, not_or] at kept
      rw [sinceTruncation, if_neg kept.2]

/-- The first writing can be taken for a part of what the file held before the later ones. -/
theorem accumulated_cons
    (content? : Option Bytes) (first : Writing) (later : List Writing) :
    accumulated (content?.getD []) (first :: later) =
      accumulated (first.mode.kept content? ++ first.bytes) later := by
  by_cases emptied : later.any truncates = true
  · simp only [accumulated, sinceTruncation, List.any_cons, emptied,
      Bool.or_true, if_true]
  · have start :
        (if first.truncates then [] else content?.getD []) =
          first.mode.kept content? := by
      rcases first with ⟨node, mode, bytes⟩
      cases mode <;> rfl
    rw [accumulated, accumulated, sinceTruncation,
      sinceTruncation_eq_self emptied, List.any_cons, if_neg emptied,
      if_neg emptied, Bool.eq_false_iff.mpr emptied, Bool.or_false, start,
      List.flatMap_cons, List.append_assoc]

theorem contentAfter_cons
    (content? : Option Bytes) (first : Writing) (later : List Writing) :
    contentAfter content? (first :: later) =
      contentAfter (some (first.mode.kept content? ++ first.bytes))
        later := by
  rw [contentAfter, List.isEmpty_cons, if_neg Bool.false_ne_true,
    accumulated_cons]
  cases later with
  | nil => simp [contentAfter, accumulated, sinceTruncation]
  | cons second others => rfl

@[simp]
theorem contentAfter_nil (content? : Option Bytes) :
    contentAfter content? [] = content? :=
  rfl

theorem contentAfter_append
    (content? : Option Bytes) (front back : List Writing) :
    contentAfter content? (front ++ back) =
      contentAfter (contentAfter content? front) back := by
  induction front generalizing content? with
  | nil => rfl
  | cons first later ih =>
      rw [List.cons_append, contentAfter_cons, ih, ← contentAfter_cons]

end Writing

/-! ### What one line leaves -/

/-- The output that an action holds. -/
def Action.captured : Action → Output
  | .output held => held
  | .exit _ => .none
  | .endSession => .none

/-- The run of a line's command: the delivery that was open for it, what it gave, and the world
after it. -/
structure Performance where
  command : Command
  opened : Delivery
  action : Action
  ran : World

namespace Performance

/-- The bytes that a command leaves for the shell's own streams. -/
def unredirected (performance : Performance) : List (Stream × UInt8) :=
  performance.action.captured.unredirected
    (performance.command.redirection.map Redirection.stream)

/-- What goes to the file that the redirection names. -/
def writing? (performance : Performance) : Option Writing :=
  match performance.command.redirection, performance.opened.redirected with
  | some redirection, some (_, handle) =>
    some
      ⟨handle.node, redirection.mode,
        performance.action.captured.of redirection.stream⟩
  | _, _ => none

/-- The command itself leaves a file as it is. -/
def Spares (performance : Performance) (id : NodeId) : Prop :=
  performance.opened.world.files.AgreeAt performance.ran.files id

instance (performance : Performance) (id : NodeId) :
    Decidable (performance.Spares id) :=
  inferInstanceAs
    (Decidable
      (performance.opened.world.files.AgreeAt performance.ran.files id))

/-- What a line makes of a world, but for what its command does to files. -/
structure Leaves (performance : Performance) (world after : World) :
    Prop where
  transcript :
    after.transcript.labelled =
      world.transcript.labelled ++ world.visible performance.unredirected
  others :
    ∀ id, (∀ writing ∈ performance.writing?, writing.node ≠ id) →
      world.files.AgreeAt performance.opened.world.files id ∧
        performance.ran.files.AgreeAt after.files id
  target :
    ∀ writing ∈ performance.writing?,
      world.files.isDevice writing.node = false →
      performance.Spares writing.node →
        after.files.isDevice writing.node = false ∧
          after.files.content? writing.node =
            some
              (writing.mode.kept (world.files.content? writing.node) ++
                writing.bytes)

end Performance

/-- The run of the command of a line, if it comes to that. -/
def performance? (launcher : Launcher) (world : World) (line : Text) :
    Option Performance :=
  match Command.ofLine line with
  | .error _ => none
  | .ok command =>
    if command.isBlank then none
    else
      match world.openDelivery command.redirection with
      | .error _ => none
      | .ok opened =>
        let (action, ran) :=
          dispatch launcher opened.world command.arguments
        some ⟨command, opened, action, ran⟩

/-- The target of a line could be opened, if it has one, and its output was delivered. -/
def succeeds : Except ShellError Flow → Bool
  | .error (.redirect _ _) => false
  | .error (.output _) => false
  | _ => true

theorem executeLine_of_performance?_eq_none
    {launcher : Launcher} {world : World} {line : Text}
    (idle : performance? launcher world line = none) :
    (executeLine launcher world line).2 = world := by
  rw [performance?] at idle
  rw [executeLine]
  cases parsed : Command.ofLine line with
  | error error => rfl
  | ok command =>
      rw [parsed] at idle
      simp only [Command.execute] at idle ⊢
      split
      · rfl
      · rename_i visible
        rw [if_neg visible] at idle
        rcases found : world.openDelivery command.redirection with
          error | opened
        · rfl
        · rw [found] at idle
          cases idle

theorem Delivery.Sends.nothing (delivery : Delivery) :
    Delivery.Sends .none delivery delivery := by
  refine ⟨?_, fun _ => rfl, ?_⟩
  · simp [Output.none, Output.unredirected, Stream.unredirected,
      World.visible]
  · intro stream handle led
    cases stream <;> exact ⟨handle, .nothing _ handle⟩

theorem Answering.exists_sends
    {ran : Delivery} {action : Action} {result : Except ShellError Flow}
    {after : World} {sendings : List (Event Delivery)}
    (answering : Answering ran action result after sendings)
    (succeeded : succeeds result = true) :
    ∃ sent, Delivery.Sends action.captured ran sent ∧
      after = sent.close := by
  cases answering with
  | exited code => exact ⟨ran, .nothing ran, rfl⟩
  | ended => exact ⟨ran, .nothing ran, rfl⟩
  | delivered written =>
      exact ⟨_, Delivery.sends_of_send written, rfl⟩
  | undelivered failed => cases succeeded

theorem exists_of_performance?_eq_some
    {launcher : Launcher} {world : World} {line : Text}
    {performance : Performance}
    (performed : performance? launcher world line = some performance) :
    Command.ofLine line = .ok performance.command ∧
      splitWords line ≠ [] ∧
      world.openDelivery performance.command.redirection =
        .ok performance.opened ∧
      dispatch launcher performance.opened.world
          performance.command.arguments =
        (performance.action, performance.ran) := by
  unfold performance? at performed
  split at performed
  · cases performed
  · rename_i command parsed
    split at performed
    · cases performed
    · rename_i visible
      rw [Command.isBlank_iff_splitWords_eq_nil parsed] at visible
      split at performed
      · cases performed
      · rename_i opened found
        cases performed
        exact ⟨parsed, visible, found, rfl⟩

theorem Opening.source
    {world : World} {redirection? : Option Redirection}
    {opened : Delivery} {openings : List (Event Delivery)}
    (opening : Opening world redirection? opened openings) :
    opened.redirected.map Prod.fst =
      redirection?.map Redirection.stream := by
  cases opening with
  | nothing => rfl
  | target found holds =>
      rw [holds]
      rfl

section Files

variable {world : World} {performance : Performance} {sent : Delivery}
  {openings : List (Event Delivery)}
  (opening :
    Opening world performance.command.redirection performance.opened
      openings)
  (sends :
    Delivery.Sends performance.action.captured
      { performance.opened with world := performance.ran } sent)

include opening sends

/-- Neither opening a target nor delivering output touches any other file. -/
theorem Opening.agreeAt_others
    {id : NodeId}
    (apart : ∀ writing ∈ performance.writing?, writing.node ≠ id) :
    world.files.AgreeAt performance.opened.world.files id ∧
      performance.ran.files.AgreeAt sent.world.files id := by
  rcases performance with ⟨⟨arguments, redirection?⟩, opened, action, ran⟩
  cases opening with
  | nothing =>
      have same : sent.world.files = ran.files := sends.files rfl
      rw [same]
      exact ⟨.refl world.files id, .refl ran.files id⟩
  | target found holds =>
      rename_i redirection handle files
      subst holds
      have opens := FileSystem.opens_of_openForWriting found
      rcases sends.target redirection.stream handle rfl with
        ⟨moved, writes⟩
      have elsewhere : id ≠ handle.node :=
        (apart _ rfl).symm
      exact ⟨opens.others id elsewhere, writes.others id elsewhere⟩

/-- A file that the command spares gets the redirected stream behind what the mode keeps. -/
theorem Opening.content_target
    {writing : Writing} (member : writing ∈ performance.writing?)
    (regular : world.files.isDevice writing.node = false)
    (spares : performance.Spares writing.node) :
    sent.world.files.isDevice writing.node = false ∧
      sent.world.files.content? writing.node =
        some
          (writing.mode.kept (world.files.content? writing.node) ++
            writing.bytes) := by
  rcases performance with ⟨⟨arguments, redirection?⟩, opened, action, ran⟩
  cases opening with
  | nothing => cases member
  | target found holds =>
      rename_i redirection handle files
      subst holds
      cases member
      have opens := FileSystem.opens_of_openForWriting found
      rcases sends.target redirection.stream handle rfl with
        ⟨moved, writes⟩
      have kept := opens.content regular
      have ends := (opens.atEnd regular).of_agreeAt spares
      constructor
      · exact writes.device.trans
          (spares.2.trans (opens.device.trans regular))
      · exact (writes.content _ (spares.1.trans kept) ends).1

end Files

/-- A line puts the redirected stream into its target and everything else on the terminal. -/
theorem leaves_of_performance?_eq_some
    {launcher : Launcher} {world : World} {line : Text}
    {performance : Performance}
    (performed : performance? launcher world line = some performance)
    (succeeded :
      succeeds (executeLine launcher world line).1 = true) :
    performance.Leaves world (executeLine launcher world line).2 := by
  rcases exists_of_performance?_eq_some performed with
    ⟨parsed, present, found, ran⟩
  rcases executeLine_of_opened launcher parsed present found with
    ⟨openings, action, after, sendings, opening, dispatched, answering, _⟩
  rw [ran] at dispatched
  cases dispatched
  rcases answering.exists_sends succeeded with ⟨sent, sends, closed⟩
  rcases World.openDelivery_frame found with ⟨files, busy, openedWorld⟩
  rcases dispatch_frame launcher performance.opened.world
      performance.command.arguments with
    ⟨ranFiles, ranDirectory, ranWorld⟩
  rw [ran, openedWorld] at ranWorld
  simp only at ranWorld
  rw [closed]
  refine ⟨?_, ?_, ?_⟩
  · have shown := sends.transcript
    simp only [opening.source] at shown
    rw [Delivery.close, shown, ranWorld]
    rfl
  · intro id apart
    exact opening.agreeAt_others sends apart
  · intro writing member regular spares
    exact opening.content_target sends member regular spares

theorem Performance.Leaves.agreeAt
    {performance : Performance} {world after : World} {id : NodeId}
    (leaves : performance.Leaves world after)
    (spares : performance.Spares id)
    (apart : ∀ writing ∈ performance.writing?, writing.node ≠ id) :
    world.files.AgreeAt after.files id := by
  rcases leaves.others id apart with ⟨front, back⟩
  exact (front.trans spares).trans back

/-- The content of a file that a command spares, after its line. -/
theorem Performance.Leaves.contents
    {performance : Performance} {world after : World} {id : NodeId}
    (leaves : performance.Leaves world after)
    (regular : world.files.isDevice id = false)
    (spares : performance.Spares id) :
    after.files.isDevice id = false ∧
      after.files.content? id =
        Writing.contentAfter (world.files.content? id)
          (performance.writing?.toList.filter fun writing =>
            writing.node = id) := by
  cases found : performance.writing? with
  | none =>
      have agrees := leaves.agreeAt spares (by simp [found])
      exact ⟨agrees.2.trans regular, agrees.1⟩
  | some writing =>
      rw [Option.toList_some]
      by_cases named : writing.node = id
      · subst named
        rcases leaves.target writing found regular spares with
          ⟨still, content⟩
        rw [List.filter_cons_of_pos (by simp), List.filter_nil,
          Writing.contentAfter_cons, Writing.contentAfter_nil]
        exact ⟨still, content⟩
      · have agrees := leaves.agreeAt spares (by simp [found, named])
        rw [List.filter_cons_of_neg (by simp [named]), List.filter_nil,
          Writing.contentAfter_nil]
        exact ⟨agrees.2.trans regular, agrees.1⟩

/-! ### What many lines leave -/

section Lines

variable (launcher : Launcher)

/-- Lines that are executed one after the other, each with the world that it finds. -/
def stepsOf (world : World) : List Text → List (World × Text)
  | [] => []
  | line :: rest =>
    (world, line) :: stepsOf (executeLine launcher world line).2 rest

/-- The world after some lines. -/
def executeLines (world : World) (lines : List Text) : World :=
  lines.foldl (fun world line => (executeLine launcher world line).2) world

/-- The runs of the commands of some lines, in order. -/
def performancesOf (world : World) (lines : List Text) : List Performance :=
  (stepsOf launcher world lines).filterMap fun (world, line) =>
    performance? launcher world line

/-- What some lines write to a file, in order. -/
def writingsTo (world : World) (lines : List Text) (id : NodeId) :
    List Writing :=
  ((performancesOf launcher world lines).filterMap
    Performance.writing?).filter fun writing => writing.node = id

/-- The output of some lines is where their redirections lead it, and nowhere else. -/
structure Accumulates (world : World) (lines : List Text) : Prop where
  /-- The terminal has the streams that are not redirected, in order. -/
  received :
    (executeLines launcher world lines).transcript.labelled =
      world.transcript.labelled ++
        world.visible
          ((performancesOf launcher world lines).flatMap
            Performance.unredirected)
  /-- A file that the commands spare has what the lines wrote to it. -/
  contents :
    ∀ id, world.files.isDevice id = false →
      (∀ performance ∈ performancesOf launcher world lines,
        performance.Spares id) →
      (executeLines launcher world lines).files.content? id =
        Writing.contentAfter (world.files.content? id)
          (writingsTo launcher world lines id)
  /-- No line but for its command touches a file that is not its target. -/
  others :
    ∀ before line, (before, line) ∈ stepsOf launcher world lines →
      ∀ performance, performance? launcher before line = some performance →
        ∀ id, (∀ writing ∈ performance.writing?, writing.node ≠ id) →
          before.files.AgreeAt performance.opened.world.files id ∧
            performance.ran.files.AgreeAt
              (executeLine launcher before line).2.files id

variable {launcher}

theorem performancesOf_cons
    (world : World) (line : Text) (rest : List Text) :
    performancesOf launcher world (line :: rest) =
      (performance? launcher world line).toList ++
        performancesOf launcher (executeLine launcher world line).2
          rest := by
  cases performed : performance? launcher world line with
  | none => simp [performancesOf, stepsOf, performed]
  | some performance => simp [performancesOf, stepsOf, performed]

theorem writingsTo_cons
    (world : World) (line : Text) (rest : List Text) (id : NodeId) :
    writingsTo launcher world (line :: rest) id =
      (((performance? launcher world line).toList.filterMap
          Performance.writing?).filter fun writing => writing.node = id) ++
        writingsTo launcher (executeLine launcher world line).2 rest
          id := by
  rw [writingsTo, performancesOf_cons, List.filterMap_append,
    List.filter_append, writingsTo]

theorem executeLine_visible (world : World) (line : Text) :
    (executeLine launcher world line).2.visible = world.visible := by
  have same := (executeLine_sameTerms launcher world line).2
  funext entries
  simp only [World.visible, World.shows, same]

/-- One line's part of what is on the terminal. -/
theorem executeLine_received
    {world : World} {line : Text}
    (succeeded : succeeds (executeLine launcher world line).1 = true) :
    (executeLine launcher world line).2.transcript.labelled =
      world.transcript.labelled ++
        world.visible
          ((performance? launcher world line).toList.flatMap
            Performance.unredirected) := by
  cases performed : performance? launcher world line with
  | none =>
      rw [executeLine_of_performance?_eq_none performed]
      simp [World.visible]
  | some performance =>
      rw [(leaves_of_performance?_eq_some performed succeeded).transcript]
      simp

/-- One line's part of what is in a file. -/
theorem executeLine_contents
    {world : World} {line : Text} {id : NodeId}
    (succeeded : succeeds (executeLine launcher world line).1 = true)
    (regular : world.files.isDevice id = false)
    (spared :
      ∀ performance ∈ performance? launcher world line,
        performance.Spares id) :
    (executeLine launcher world line).2.files.isDevice id = false ∧
      (executeLine launcher world line).2.files.content? id =
        Writing.contentAfter (world.files.content? id)
          (((performance? launcher world line).toList.filterMap
            Performance.writing?).filter fun writing =>
              writing.node = id) := by
  cases performed : performance? launcher world line with
  | none =>
      rw [executeLine_of_performance?_eq_none performed]
      exact ⟨regular, rfl⟩
  | some performance =>
      have leaves := leaves_of_performance?_eq_some performed succeeded
      have single :
          (some performance).toList.filterMap Performance.writing? =
            performance.writing?.toList := by
        cases found : performance.writing? <;> simp [found]
      rw [single]
      exact leaves.contents regular (spared performance performed)

theorem executeLines_received
    {world : World} {lines : List Text}
    (succeeded :
      ∀ step ∈ stepsOf launcher world lines,
        succeeds (executeLine launcher step.1 step.2).1 = true) :
    (executeLines launcher world lines).transcript.labelled =
      world.transcript.labelled ++
        world.visible
          ((performancesOf launcher world lines).flatMap
            Performance.unredirected) := by
  induction lines generalizing world with
  | nil => simp [executeLines, performancesOf, stepsOf, World.visible]
  | cons line rest ih =>
      have first := executeLine_received (succeeded _ List.mem_cons_self)
      have later :=
        ih fun step member => succeeded step (List.mem_cons_of_mem _ member)
      rw [executeLines, List.foldl_cons, ← executeLines, later, first,
        performancesOf_cons, List.flatMap_append, executeLine_visible,
        List.append_assoc, World.visible, World.visible, World.visible,
        ← List.filter_append]

theorem executeLines_contents
    {world : World} {lines : List Text} {id : NodeId}
    (succeeded :
      ∀ step ∈ stepsOf launcher world lines,
        succeeds (executeLine launcher step.1 step.2).1 = true)
    (regular : world.files.isDevice id = false)
    (spared :
      ∀ performance ∈ performancesOf launcher world lines,
        performance.Spares id) :
    (executeLines launcher world lines).files.content? id =
      Writing.contentAfter (world.files.content? id)
        (writingsTo launcher world lines id) := by
  induction lines generalizing world with
  | nil => rfl
  | cons line rest ih =>
      simp only [performancesOf_cons, List.mem_append,
        Option.mem_toList] at spared
      rcases executeLine_contents (succeeded _ List.mem_cons_self) regular
          (fun performance member => spared performance (Or.inl member)) with
        ⟨still, first⟩
      have later :=
        ih
          (fun step member => succeeded step (List.mem_cons_of_mem _ member))
          still
          (fun performance member => spared performance (Or.inr member))
      rw [executeLines, List.foldl_cons, ← executeLines, later, first,
        writingsTo_cons, Writing.contentAfter_append]

theorem executeLines_accumulates
    {world : World} {lines : List Text}
    (succeeded :
      ∀ step ∈ stepsOf launcher world lines,
        succeeds (executeLine launcher step.1 step.2).1 = true) :
    Accumulates launcher world lines := by
  refine ⟨executeLines_received succeeded, ?_, ?_⟩
  · intro id regular spared
    exact executeLines_contents succeeded regular spared
  · intro before line member performance performed id apart
    exact
      (leaves_of_performance?_eq_some performed
        (succeeded _ member)).others id apart

end Lines

/-- A world with a file that holds a line and with a program on the search path. -/
def World.withProgram : World :=
  { World.initial
      ⟨#[.directory
          ⟨[], 0, [("log".toList, 1), ("noisy".toList, 2)], false, true⟩,
        .file newFileMode (Text.encode "kept\n".toList),
        .file 0o755 []]⟩ with
    environment := ⟨some "/".toList, none⟩ }

/-- Every program writes to both of its streams and leaves all files alone. -/
def noisyLauncher : Launcher := fun world _ =>
  (.ok ⟨Text.encode "out\n".toList, Text.encode "bad\n".toList⟩,
    world.files)

/-- Lines with both modes, both streams, a missing command and no command at all. -/
def redirectedLines : List Text :=
  ["echo one >> log".toList, "noisy 2> err".toList,
    "missing 2>> err".toList, "> log".toList,
    "echo two 1>> log".toList, "echo three".toList]

theorem executeLines_accumulates_redirectedLines :
    (∀ step ∈ stepsOf noisyLauncher .withProgram redirectedLines,
      succeeds (executeLine noisyLauncher step.1 step.2).1 = true) ∧
    Accumulates noisyLauncher .withProgram redirectedLines ∧
    (executeLines noisyLauncher .withProgram
        redirectedLines).transcript.labelled =
      (Text.encode "out\nthree\n".toList).map
        (fun byte => (.stdout, byte)) ∧
    (executeLines noisyLauncher .withProgram
        redirectedLines).files.content? 1 =
      some (Text.encode "two\n".toList) ∧
    (executeLines noisyLauncher .withProgram
        redirectedLines).files.content? 3 =
      some
        (Text.encode "bad\nmissing: command not found\n".toList) := by
  have succeeded :
      ∀ step ∈ stepsOf noisyLauncher .withProgram redirectedLines,
        succeeds (executeLine noisyLauncher step.1 step.2).1 = true := by
    rw [← List.all_eq_true]
    cbv
  have accumulates :
      Accumulates noisyLauncher .withProgram redirectedLines :=
    executeLines_accumulates succeeded
  have spared :
      ∀ performance ∈
          performancesOf noisyLauncher .withProgram redirectedLines,
        performance.Spares 1 ∧ performance.Spares 3 := by
    have checked :
        ((performancesOf noisyLauncher .withProgram redirectedLines).all
          fun performance =>
            performance.Spares 1 ∧ performance.Spares 3) = true := by
      cbv
    simpa using checked
  refine ⟨succeeded, accumulates, ?_, ?_, ?_⟩
  · rw [accumulates.received]
    cbv
  · have content :=
      accumulates.contents 1 rfl fun performance member =>
        (spared performance member).1
    rw [content]
    cbv
  · have content :=
      accumulates.contents 3 rfl fun performance member =>
        (spared performance member).2
    rw [content]
    cbv

end InteractiveShell
