import InteractiveShell.Proofs.Dispatch.Meaning
import InteractiveShell.Proofs.Execution.Accumulation
import InteractiveShell.Proofs.FileSystem.Opening

/-!
# Where a shell works

Nothing but a `cd` that finds its directory moves a shell.  Any other line leaves it where it is:
another builtin command, a program, which runs in a directory of its own, a line that fails before
its command is run, and a `cd` that fails, which puts a message on standard error and does nothing
else.  No line changes the variables.

The directory that `cd` asks for is looked up behind the opening of the line's redirection.  That
makes no difference, because an opening leaves all directories in place.
-/

namespace InteractiveShell

/-! ### What `cd` is asked for -/

/-- Arguments of `cd` that are about the value of `HOME`. -/
inductive NeedsHome : List Text → Prop where
  | nothing : NeedsHome []
  | tilde (ignored : List Text) : NeedsHome (['~'] :: ignored)
  | below (rest : Text) (ignored : List Text) :
      NeedsHome (('~' :: '/' :: rest) :: ignored)

/-- The path that arguments of `cd` ask for. -/
inductive CdAsks (environment : Environment) : List Text → Text → Prop where
  | nothing {home : Text} (set : environment.home = some home) :
      CdAsks environment [] home
  | tilde {home : Text} (set : environment.home = some home)
      (ignored : List Text) :
      CdAsks environment (['~'] :: ignored) home
  | below {home : Text} (set : environment.home = some home) (rest : Text)
      (ignored : List Text) :
      CdAsks environment (('~' :: '/' :: rest) :: ignored)
        (home ++ '/' :: rest)
  | named {path : Text} {ignored : List Text}
      (plain : ¬ NeedsHome (path :: ignored)) :
      CdAsks environment (path :: ignored) path

/-- What `cd` says when it fails: that `HOME` is not set, or that there is no such directory as it
was given, which without an argument is the value of `HOME`. -/
inductive CdRefuses (environment : Environment) :
    List Text → Text → Prop where
  | homeUnset {arguments : List Text} (needs : NeedsHome arguments)
      (unset : environment.home = none) :
      CdRefuses environment arguments "cd: HOME not set".toList
  | noDirectory {arguments : List Text} {path : Text}
      (asks : CdAsks environment arguments path) :
      CdRefuses environment arguments
        ("cd: ".toList ++ arguments.head?.getD path ++
          ": No such file or directory".toList)

namespace World

variable {world : World} {arguments : List Text}

theorem cdTarget?_eq_some_iff {path : Text} :
    world.cdTarget? arguments = some path ↔
      CdAsks world.environment arguments path := by
  constructor
  · intro asked
    unfold cdTarget? at asked
    split at asked
    · exact .nothing asked
    · exact .tilde asked _
    · rcases Option.map_eq_some_iff.mp asked with ⟨home, set, rfl⟩
      exact .below set _ _
    · rename_i target ignored single below
      cases asked
      refine .named ?_
      rintro (_ | _ | ⟨rest, _⟩)
      · exact single rfl
      · exact below rest rfl
  · rintro (set | set | set | plain)
    · exact set
    · exact set
    · rw [cdTarget?, set]
      rfl
    · rw [cdTarget?]
      · rintro rfl
        exact plain (.tilde _)
      · rintro rest rfl
        exact plain (.below rest _)

theorem cdTarget?_eq_none_iff :
    world.cdTarget? arguments = none ↔
      NeedsHome arguments ∧ world.environment.home = none := by
  constructor
  · intro missing
    unfold cdTarget? at missing
    split at missing
    · exact ⟨.nothing, missing⟩
    · exact ⟨.tilde _, missing⟩
    · exact ⟨.below _ _, Option.map_eq_none_iff.mp missing⟩
    · cases missing
  · rintro ⟨_ | _ | _, unset⟩
    · exact unset
    · exact unset
    · rw [cdTarget?, unset]
      rfl

theorem cd_eq_of_asks
    {path : Text} {id : NodeId}
    (asks : CdAsks world.environment arguments path)
    (leads : world.files.resolveDirectory world.directory path = .ok id) :
    world.cd arguments = (.none, { world with directory := id }) := by
  rw [cd, cdTarget?_eq_some_iff.mpr asks]
  simp only [changeDirectory, leads]

theorem exists_refusal
    (stuck :
      ∀ path id, CdAsks world.environment arguments path →
        world.files.resolveDirectory world.directory path ≠ .ok id) :
    ∃ message,
      CdRefuses world.environment arguments message ∧
        world.cd arguments = (.ofError message, world) := by
  rw [cd]
  cases asked : world.cdTarget? arguments with
  | none =>
      rcases cdTarget?_eq_none_iff.mp asked with ⟨needs, unset⟩
      exact ⟨_, .homeUnset needs unset, rfl⟩
  | some path =>
      have asks := cdTarget?_eq_some_iff.mp asked
      cases leads :
          world.files.resolveDirectory world.directory path with
      | ok id => exact absurd leads (stuck path id asks)
      | error cause =>
          refine ⟨_, .noDirectory asks, ?_⟩
          simp only [changeDirectory, leads]

end World

/-! ### One line -/

/-- A line runs `cd` with some arguments, behind the opening of its redirection. -/
structure RunsCd (world : World) (line : Text) (command : Command)
    (arguments : List Text) (opened : Delivery) : Prop where
  parsed : Command.ofLine line = .ok command
  named : command.arguments = Builtin.cd.name :: arguments
  opens : world.openDelivery command.redirection = .ok opened

/-- A line moves a shell: it runs `cd`, and the path that it asks for leads to a directory. -/
def World.Moves (world : World) (line : Text) (id : NodeId) : Prop :=
  ∃ command arguments opened path,
    RunsCd world line command arguments opened ∧
      CdAsks world.environment arguments path ∧
        world.files.resolveDirectory world.directory path = .ok id

/-- Behind the opening of its redirection, a line puts out a message on standard error and does
nothing else. -/
structure OnlyReports (launcher : Launcher) (world : World) (line : Text)
    (command : Command) (opened : Delivery) (message : Text) : Prop where
  staged :
    ∃ openings sendings,
      Opening world command.redirection opened openings ∧
        Answering opened
          (.output ⟨[], Text.encode (message ++ ['\n'])⟩)
          (executeLine launcher world line).1
          (executeLine launcher world line).2 sendings ∧
        eventsOf launcher world line =
          openings ++
            .ran opened command.arguments
                (.output ⟨[], Text.encode (message ++ ['\n'])⟩) opened ::
              sendings
  /-- Only a file can keep the message from being delivered. -/
  proceeds :
    command.redirection.map Redirection.stream ≠ some .stderr →
      (executeLine launcher world line).1 = .ok .proceed
  sends :
    (executeLine launcher world line).1 = .ok .proceed →
      ∃ sent,
        Delivery.Sends ⟨[], Text.encode (message ++ ['\n'])⟩ opened sent ∧
          (executeLine launcher world line).2 = sent.close

/-- What a line does about the working directory and the variables. -/
structure OnlyCdMoves (launcher : Launcher) (world : World) (line : Text) :
    Prop where
  moved :
    ∀ id, world.Moves line id →
      (executeLine launcher world line).2.directory = id
  stayed :
    (∀ id, ¬ world.Moves line id) →
      (executeLine launcher world line).2.directory = world.directory
  /-- A `cd` that does not move the shell puts out a message and nothing else. -/
  refused :
    ∀ command arguments opened,
      RunsCd world line command arguments opened →
      (∀ id, ¬ world.Moves line id) →
        ∃ message,
          CdRefuses world.environment arguments message ∧
            OnlyReports launcher world line command opened message
  environment :
    (executeLine launcher world line).2.environment = world.environment

section Line

variable {launcher : Launcher} {world : World} {line : Text}

theorem World.keepsDirectories_of_openDelivery
    {redirection? : Option Redirection} {opened : Delivery}
    (opens : world.openDelivery redirection? = .ok opened) :
    FileSystem.KeepsDirectories world.files opened.world.files := by
  unfold World.openDelivery at opens
  split at opens
  · cases opens
    exact .refl world.files
  · split at opens
    · cases opens
    · rename_i handle files written
      cases opens
      exact FileSystem.keepsDirectories_of_openForWriting written

/-- A command other than `cd` leaves the working directory as it is. -/
theorem dispatch_directory
    {arguments : List Text}
    (other : ∀ rest, arguments ≠ Builtin.cd.name :: rest) :
    (dispatch launcher world arguments).2.directory = world.directory := by
  cases arguments with
  | nil => rfl
  | cons name rest =>
      by_cases present : name :: rest ≠ [[]]
      · rw [dispatch_cons launcher world present]
        cases means : world.meaning name with
        | nothing => rfl
        | program path =>
            simp only [Launch.act, Launch.run_frame]
        | builtin command =>
            cases command with
            | cd =>
                have same := World.name_eq_of_meaning_eq_builtin means
                exact absurd (by rw [same]) (other rest)
            | exit | echo | type | pwd => rfl
      · rw [not_not.mp present]
        rfl

/-- Delivering the output of a command moves no shell. -/
theorem Delivery.execute_directory
    (delivery : Delivery) (arguments : List Text) :
    (delivery.execute launcher arguments).2.directory =
      (dispatch launcher delivery.world arguments).2.directory := by
  rcases delivery.execute_world launcher arguments with
    same | ⟨output, same⟩
  · rw [same]
    rfl
  · rcases Delivery.send_frame
        { delivery with
          world := (dispatch launcher delivery.world arguments).2 }
        output with
      ⟨files, transcript, sent⟩
    rw [same, close, sent]

theorem RunsCd.splitWords_ne_nil
    {command : Command} {arguments : List Text} {opened : Delivery}
    (runs : RunsCd world line command arguments opened) :
    splitWords line ≠ [] := by
  apply Command.splitWords_ne_nil_of_ne_blank runs.parsed
  rintro rfl
  have named := runs.named
  cases named

theorem RunsCd.dispatch_eq
    {command : Command} {arguments : List Text} {opened : Delivery}
    (runs : RunsCd world line command arguments opened) :
    dispatch launcher opened.world command.arguments =
      (.output (opened.world.cd arguments).1,
        (opened.world.cd arguments).2) := by
  have present : Builtin.cd.name :: arguments ≠ [[]] := by
    rintro ⟨⟩
  rw [runs.named, dispatch_cons launcher _ present, World.meaning_name]
  rfl

/-- `cd` asks for the same directories behind the opening of a redirection. -/
theorem RunsCd.resolveDirectory_iff
    {command : Command} {arguments : List Text} {opened : Delivery}
    (runs : RunsCd world line command arguments opened)
    {path : Text} {id : NodeId} :
    (CdAsks opened.world.environment arguments path ∧
        opened.world.files.resolveDirectory opened.world.directory path =
          .ok id) ↔
      CdAsks world.environment arguments path ∧
        world.files.resolveDirectory world.directory path = .ok id := by
  have keeps := World.keepsDirectories_of_openDelivery runs.opens
  rcases World.openDelivery_frame runs.opens with ⟨files, busy, begun⟩
  have same :
      opened.world.files.resolveDirectory world.directory path = .ok id ↔
        world.files.resolveDirectory world.directory path = .ok id :=
    keeps.resolveDirectory_iff world.directory path
  rw [begun] at same ⊢
  rw [same]

theorem RunsCd.executeLine_eq
    {command : Command} {arguments : List Text} {opened : Delivery}
    (runs : RunsCd world line command arguments opened) :
    executeLine launcher world line =
      opened.execute launcher command.arguments := by
  have visible : ¬ command.isBlank = true := by
    rw [Command.isBlank_iff_splitWords_eq_nil runs.parsed]
    exact runs.splitWords_ne_nil
  rw [executeLine, runs.parsed]
  simp only [Command.execute, if_neg visible, runs.opens]

theorem RunsCd.exists_refusal
    {command : Command} {arguments : List Text} {opened : Delivery}
    (runs : RunsCd world line command arguments opened)
    (stuck : ∀ id, ¬ world.Moves line id) :
    ∃ message,
      CdRefuses world.environment arguments message ∧
        opened.world.cd arguments = (.ofError message, opened.world) := by
  have refuses :
      ∃ message,
        CdRefuses opened.world.environment arguments message ∧
          opened.world.cd arguments = (.ofError message, opened.world) := by
    apply World.exists_refusal
    intro path id asks leads
    have before := runs.resolveDirectory_iff.mp ⟨asks, leads⟩
    exact stuck id ⟨command, arguments, opened, path, runs, before⟩
  rcases World.openDelivery_frame runs.opens with ⟨files, busy, begun⟩
  rw [begun] at refuses ⊢
  exact refuses

theorem Answering.eq_proceed_of_send
    {ran sent : Delivery} {output : Output}
    {result : Except ShellError Flow} {after : World}
    {sendings : List (Event Delivery)}
    (answering : Answering ran (.output output) result after sendings)
    (written : ran.send output = (.ok (), sent)) :
    result = .ok .proceed := by
  cases answering with
  | delivered => rfl
  | undelivered failed =>
      rw [written] at failed
      cases failed

theorem RunsCd.onlyReports
    {command : Command} {arguments : List Text} {opened : Delivery}
    {message : Text} (runs : RunsCd world line command arguments opened)
    (refused :
      opened.world.cd arguments = (.ofError message, opened.world)) :
    OnlyReports launcher world line command opened message := by
  rcases executeLine_of_opened launcher runs.parsed runs.splitWords_ne_nil
      runs.opens with
    ⟨openings, action, ran, sendings, opening, dispatched, answering,
      events⟩
  rw [runs.dispatch_eq, refused] at dispatched
  cases dispatched
  refine ⟨⟨openings, sendings, opening, answering, events⟩, ?_, ?_⟩
  · intro apart
    rw [← opening.source] at apart
    rcases Delivery.exists_send_eq_ok apart
        (Text.encode (message ++ ['\n'])) with
      ⟨sent, written⟩
    exact answering.eq_proceed_of_send written
  · intro proceeded
    apply answering.exists_sends
    rw [proceeded]
    rfl

theorem World.Moves.directory_eq
    {id : NodeId} (moves : world.Moves line id) :
    (executeLine launcher world line).2.directory = id := by
  rcases moves with ⟨command, arguments, opened, path, runs, asked⟩
  rcases runs.resolveDirectory_iff.mpr asked with ⟨asks, leads⟩
  rw [runs.executeLine_eq, Delivery.execute_directory, runs.dispatch_eq,
    World.cd_eq_of_asks asks leads]

theorem executeLine_directory_eq
    (stuck : ∀ id, ¬ world.Moves line id) :
    (executeLine launcher world line).2.directory = world.directory := by
  rcases executeLine_world launcher world line with
    same | ⟨command, opened, parsed, opens, same⟩
  · rw [same]
  · have kept : opened.world.directory = world.directory := by
      rcases World.openDelivery_frame opens with ⟨files, busy, begun⟩
      rw [begun]
    rw [same, Delivery.execute_directory]
    by_cases named :
        ∃ arguments, command.arguments = Builtin.cd.name :: arguments
    · rcases named with ⟨arguments, named⟩
      have runs : RunsCd world line command arguments opened :=
        ⟨parsed, named, opens⟩
      rcases runs.exists_refusal stuck with ⟨message, _, refused⟩
      rw [runs.dispatch_eq, refused]
      exact kept
    · rw [dispatch_directory (not_exists.mp named)]
      exact kept

theorem onlyCdMoves (launcher : Launcher) (world : World) (line : Text) :
    OnlyCdMoves launcher world line where
  moved _ moves := moves.directory_eq
  stayed := executeLine_directory_eq
  refused command arguments opened runs stuck := by
    rcases runs.exists_refusal stuck with ⟨message, refuses, refused⟩
    exact ⟨message, refuses, runs.onlyReports refused⟩
  environment := (executeLine_sameTerms launcher world line).1

end Line

/-! ### Many lines -/

/-- Where a shell works behind some lines is decided by those among them that move it. -/
structure MovedByLast (launcher : Launcher) (world : World)
    (lines : List Text) : Prop where
  steps :
    ∀ before line, (before, line) ∈ stepsOf launcher world lines →
      OnlyCdMoves launcher before line ∧
        before.environment = world.environment
  environment :
    (executeLines launcher world lines).environment = world.environment
  /-- The last of the lines that move the shell decides where it works. -/
  directory :
    ((∀ step ∈ stepsOf launcher world lines,
          ∀ id, ¬ step.1.Moves step.2 id) ∧
        (executeLines launcher world lines).directory =
          world.directory) ∨
      ∃ front before line back,
        stepsOf launcher world lines = front ++ (before, line) :: back ∧
          before.Moves line (executeLines launcher world lines).directory ∧
          ∀ step ∈ back, ∀ id, ¬ step.1.Moves step.2 id

section Lines

variable {launcher : Launcher}

theorem executeLines_cons
    (world : World) (line : Text) (rest : List Text) :
    executeLines launcher world (line :: rest) =
      executeLines launcher (executeLine launcher world line).2 rest :=
  rfl

theorem MovedByLast.cons
    {world : World} {line : Text} {rest : List Text}
    (later :
      MovedByLast launcher (executeLine launcher world line).2 rest) :
    MovedByLast launcher world (line :: rest) := by
  have first := onlyCdMoves launcher world line
  refine ⟨?_, ?_, ?_⟩
  · intro before found member
    rcases List.mem_cons.mp member with same | behind
    · cases same
      exact ⟨first, rfl⟩
    · rcases later.steps before found behind with ⟨only, same⟩
      exact ⟨only, same.trans first.environment⟩
  · exact later.environment.trans first.environment
  · rw [executeLines_cons, stepsOf]
    rcases later.directory with
      ⟨stuck, same⟩ | ⟨front, before, found, back, split, moves, last⟩
    · by_cases moving : ∃ id, world.Moves line id
      · rcases moving with ⟨id, moves⟩
        refine .inr ⟨[], world, line, _, rfl, ?_, stuck⟩
        rw [same, first.moved id moves]
        exact moves
      · refine .inl ⟨?_, same.trans (first.stayed (not_exists.mp moving))⟩
        intro step member
        rcases List.mem_cons.mp member with rfl | behind
        · exact not_exists.mp moving
        · exact stuck step behind
    · refine
        .inr ⟨(world, line) :: front, before, found, back, ?_, moves, last⟩
      rw [split, List.cons_append]

/-- Only a `cd` that succeeds moves a shell, and no line changes its variables. -/
theorem executeLines_movedByLast
    (launcher : Launcher) (world : World) (lines : List Text) :
    MovedByLast launcher world lines := by
  induction lines generalizing world with
  | nil => exact ⟨nofun, rfl, .inl ⟨nofun, rfl⟩⟩
  | cons line rest ih => exact (ih _).cons

/-- A world in which a shell works in the directory of the program that runs scripts. -/
def World.inBin : World :=
  { World.initial .minimal with directory := 1 }

theorem World.inBin_not_moves (id : NodeId) :
    ¬ World.inBin.Moves "cd sh".toList id := by
  rintro ⟨command, arguments, opened, path, runs, asks, leads⟩
  have parsed :
      Command.ofLine "cd sh".toList =
        .ok ⟨["cd".toList, "sh".toList], none⟩ :=
    rfl
  have same := parsed.symm.trans runs.parsed
  cases same
  have named := runs.named
  cases named
  cases asks with
  | named plain =>
      have lost :
          (World.inBin.files.resolveDirectory World.inBin.directory
            "sh".toList).toOption = none := by
        decide +kernel
      rw [leads] at lost
      cases lost

/-- A shell moves, and then it is asked to move to a program.  It stays where it is, and the
terminal shows why. -/
theorem executeLines_movedByLast_refused :
    let lines : List Text := ["cd bin".toList, "cd sh".toList]
    MovedByLast .quiet (.initial .minimal) lines ∧
      (executeLines .quiet (.initial .minimal) lines).directory = 1 ∧
        (executeLines .quiet (.initial .minimal)
            lines).transcript.labelled =
          (Text.encode
            "cd: sh: No such file or directory\n".toList).map
              fun byte => (.stderr, byte) := by
  intro lines
  have moved : MovedByLast .quiet (.initial .minimal) lines :=
    executeLines_movedByLast .quiet (.initial .minimal) lines
  have first :
      (executeLine .quiet (.initial .minimal) "cd bin".toList).2 =
        .inBin := by
    decide +kernel
  have last :
      executeLines .quiet (.initial .minimal) lines =
        (executeLine .quiet .inBin "cd sh".toList).2 := by
    rw [← first]
    rfl
  have only : OnlyCdMoves .quiet .inBin "cd sh".toList := by
    apply (moved.steps _ _ _).1
    rw [← first]
    exact List.mem_cons_of_mem _ List.mem_cons_self
  have runs :
      RunsCd .inBin "cd sh".toList ⟨["cd".toList, "sh".toList], none⟩
        ["sh".toList] ⟨.inBin, none⟩ :=
    ⟨rfl, rfl, rfl⟩
  rcases only.refused _ _ _ runs World.inBin_not_moves with
    ⟨message, refuses, reports⟩
  rcases reports.sends (reports.proceeds nofun) with
    ⟨sent, sends, closed⟩
  refine ⟨moved, ?_, ?_⟩
  · rw [last, only.stayed World.inBin_not_moves]
    rfl
  · have said : message = "cd: sh: No such file or directory".toList := by
      cases refuses with
      | homeUnset needs unset => cases needs
      | noDirectory asks => rfl
    rw [last, closed, Delivery.close, sends.transcript, said]
    decide +kernel

end Lines

end InteractiveShell
