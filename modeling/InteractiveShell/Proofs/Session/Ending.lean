import InteractiveShell.Proofs.Dispatch.Meaning
import InteractiveShell.Proofs.Execution.Stages
import InteractiveShell.Proofs.Session.Course
import InteractiveShell.Proofs.Text.Numeral

/-!
# Lines that end a session

A line ends the session if it has no words, or if its command is `exit` with no argument or with
a numeral of 32 bits, provided that the target of its redirection can be opened.  Nothing else does:
no argument of a line is empty, so a command is never mistaken for the blank one.  An `exit` with
any other argument is reported on the command's error stream, and the session goes on.

`lineEnding` states this for every line, and gives the status with which the program ends when
such a line ends it.
-/

namespace InteractiveShell

/-- The arguments with which `exit` ends the session, and the code that they ask for. -/
inductive ExitArguments : List Text → Int → Prop where
  | none : ExitArguments [] 0
  | numeral {argument : Text} {code : Int}
      (written : Numeral32 argument code) (ignored : List Text) :
      ExitArguments (argument :: ignored) code

theorem exit_eq_exit_iff {arguments : List Text} {code : Int} :
    exit arguments = .exit code ↔ ExitArguments arguments code := by
  constructor
  · intro exits
    cases arguments with
    | nil =>
        cases exits
        exact .none
    | cons argument ignored =>
        rw [exit] at exits
        split at exits
        · rename_i value found
          cases exits
          exact .numeral (integer32?_eq_some_iff.mp found) ignored
        · cases exits
  · intro asked
    cases asked with
    | none => rfl
    | numeral written ignored =>
        rw [exit, integer32?_eq_some_iff.mpr written]

/-- The target of a redirection, if there is one, can be opened for the output of a command. -/
def World.CanOpen (world : World) (redirection? : Option Redirection) :
    Prop :=
  ∀ redirection ∈ redirection?, ∃ handle files,
    world.files.openForWriting world.directory redirection.target
        redirection.mode =
      .ok (handle, files)

theorem World.canOpen_iff
    {world : World} {redirection? : Option Redirection} :
    world.CanOpen redirection? ↔
      ∃ opened, world.openDelivery redirection? = .ok opened := by
  cases redirection? with
  | none => simp [CanOpen, openDelivery]
  | some redirection =>
      simp only [CanOpen, Option.mem_some_iff, forall_eq', openDelivery]
      split <;> simp [*]

namespace Command

/-! ### The texts of a command -/

/-- The texts of a command: its arguments, and the target of its redirection. -/
def texts (command : Command) : List Text :=
  command.arguments ++ (command.redirection.map Redirection.target).toList

theorem exists_mem_of_mem_texts
    {words : List Word} {command : Command}
    (collected : collect words = .ok command) :
    ∀ text ∈ command.texts, ∃ word ∈ words, word.text = text := by
  induction words generalizing command with
  | nil =>
      cases collected
      simp [texts]
  | cons word rest ih =>
      unfold collect at collected
      split at collected
      · rcases others : collect rest with error | fewer
        · rw [others] at collected
          cases collected
        · rw [others] at collected
          cases collected
          intro text member
          rcases List.mem_cons.mp member with rfl | later
          · exact ⟨word, List.mem_cons_self, rfl⟩
          · rcases ih others text later with ⟨source, found, same⟩
            exact ⟨source, List.mem_cons_of_mem word found, same⟩
      · split at collected
        · cases collected
        · rename_i target later
          cases collected
          simp only [texts, Option.map_some, Option.toList_some,
            List.mem_append, List.mem_map, List.mem_singleton]
          rintro text (⟨source, found, same⟩ | rfl)
          · exact ⟨source, by simp [found], same⟩
          · exact ⟨target, by simp, rfl⟩

/-- No text of a command that a line denotes is empty, unless the command is the blank one. -/
theorem ne_nil_of_mem_texts
    {line : Text} {command : Command}
    (parsed : ofLine line = .ok command)
    (visible : command.isBlank = false) :
    ∀ text ∈ command.texts, text ≠ [] := by
  have present : splitWords line ≠ [] := by
    rw [ne_eq, ← isBlank_iff_splitWords_eq_nil parsed, visible]
    exact Bool.false_ne_true
  have collected : collect (splitWords line) = .ok command := by
    rwa [ofLine, ofWords, if_neg (by simpa using present)] at parsed
  intro text member
  rcases exists_mem_of_mem_texts collected text member with
    ⟨word, found, rfl⟩
  exact Scanner.text_ne_nil_of_mem_words found

end Command

/-! ### The lines that end a session -/

section Lines

variable {launcher : Launcher} {world : World} {line : Text}

/-- The arguments of a line are never those of the blank command. -/
theorem dispatch_ne_endSession
    (launcher : Launcher) (world : World) {command : Command}
    (parsed : Command.ofLine line = .ok command)
    (present : splitWords line ≠ []) :
    (dispatch launcher world command.arguments).1 ≠ .endSession := by
  have visible : command.isBlank = false := by
    rwa [← Bool.not_eq_true, Command.isBlank_iff_splitWords_eq_nil parsed]
  rw [ne_eq, dispatch_eq_endSession_iff]
  intro empty
  have member : ([] : Text) ∈ command.texts := by
    rw [Command.texts, empty]
    exact List.mem_cons_self
  exact Command.ne_nil_of_mem_texts parsed visible [] member rfl

theorem Answering.eq_exit_iff
    {ran : Delivery} {action : Action} {result : Except ShellError Flow}
    {after : World} {sendings : List (Event Delivery)}
    (answering : Answering ran action result after sendings) {code : Int}
    (goesOn : action ≠ .endSession) :
    result = .ok (.exit code) ↔ action = .exit code := by
  cases answering with
  | exited other => simp
  | ended => exact absurd rfl goesOn
  | delivered written => simp
  | undelivered failed => simp

theorem executeLine_eq_exit_iff_of_opened
    {command : Command} {opened : Delivery} {code : Int}
    (parsed : Command.ofLine line = .ok command)
    (present : splitWords line ≠ [])
    (found : world.openDelivery command.redirection = .ok opened) :
    (executeLine launcher world line).1 = .ok (.exit code) ↔
      ∃ rest, command.arguments = Builtin.exit.name :: rest ∧
        ExitArguments rest code := by
  rcases executeLine_of_opened launcher parsed present found with
    ⟨openings, action, ran, sendings, _, dispatched, answering, _⟩
  have goesOn : action ≠ .endSession := by
    have never :=
      dispatch_ne_endSession launcher opened.world parsed present
    rwa [dispatched] at never
  have asked :
      action = .exit code ↔
        ∃ rest, command.arguments = Builtin.exit.name :: rest ∧
          exit rest = .exit code := by
    have exits := dispatch_eq_exit_iff launcher opened.world
      command.arguments code
    rwa [dispatched] at exits
  simp only [answering.eq_exit_iff goesOn, asked, exit_eq_exit_iff]

theorem World.exists_unopenable
    {command : Command} {error : ShellError}
    (parsed : Command.ofLine line = .ok command)
    (failed : world.openDelivery command.redirection = .error error) :
    ∃ redirection cause, world.Unopenable line redirection cause := by
  cases redirected : command.redirection with
  | none =>
      rw [redirected] at failed
      cases failed
  | some redirection =>
      rw [redirected, openDelivery] at failed
      split at failed
      · rename_i cause refused
        exact ⟨redirection, cause, command, parsed, redirected, refused⟩
      · cases failed

/-- A line ends the session if it has no words, or if it is an `exit` that can be carried out. -/
theorem executeLine_eq_exit_iff {code : Int} :
    (executeLine launcher world line).1 = .ok (.exit code) ↔
      (splitWords line = [] ∧ code = 0) ∨
        ∃ command rest,
          Command.ofLine line = .ok command ∧
            world.CanOpen command.redirection ∧
            command.arguments = Builtin.exit.name :: rest ∧
            ExitArguments rest code := by
  by_cases none : splitWords line = []
  · have parsed : Command.ofLine line = .ok .blank := by
      rw [Command.ofLine, none]
      rfl
    rw [(executeLine_of_blank launcher none).1, parsed]
    constructor
    · intro exits
      cases exits
      exact .inl ⟨none, rfl⟩
    · rintro (⟨_, rfl⟩ | ⟨command, rest, same, _, named, _⟩)
      · rfl
      · cases same
        cases named
  · simp only [none, false_and, false_or]
    cases parsed : Command.ofLine line with
    | error error =>
        rw [executeLine, parsed]
        simp
    | ok command =>
        simp only [Except.ok.injEq, World.canOpen_iff, exists_and_left,
          exists_eq_left']
        cases found : world.openDelivery command.redirection with
        | error error =>
            rcases World.exists_unopenable parsed found with
              ⟨redirection, cause, unopenable⟩
            rw [(executeLine_of_unopenable launcher unopenable).1]
            simp
        | ok opened =>
            rw [executeLine_eq_exit_iff_of_opened parsed none found]
            simp

theorem Opening.ran_notMem
    {redirection? : Option Redirection} {opened : Delivery}
    {openings : List (Event Delivery)}
    (opening : Opening world redirection? opened openings)
    (before after : Delivery) (arguments : List Text) (action : Action) :
    .ran before arguments action after ∉ openings := by
  cases opening <;> simp

theorem Answering.ran_notMem
    {ran : Delivery} {asked : Action} {result : Except ShellError Flow}
    {later : World} {sendings : List (Event Delivery)}
    (answering : Answering ran asked result later sendings)
    (before after : Delivery) (arguments : List Text) (action : Action) :
    .ran before arguments action after ∉ sendings := by
  cases answering <;> simp

/-- No command that a line makes the shell run ends the session without a code. -/
theorem ran_endSession_notMem_eventsOf
    (before after : Delivery) (arguments : List Text) :
    .ran before arguments .endSession after ∉
      eventsOf launcher world line := by
  by_cases none : splitWords line = []
  · rw [(executeLine_of_blank launcher none).2]
    exact List.not_mem_nil
  · cases parsed : Command.ofLine line with
    | error error =>
        rcases Command.exists_endsInOperator parsed with ⟨operator, ends⟩
        rw [(executeLine_of_endsInOperator launcher ends).2]
        exact List.not_mem_nil
    | ok command =>
        cases found : world.openDelivery command.redirection with
        | error error =>
            rcases World.exists_unopenable parsed found with
              ⟨redirection, cause, unopenable⟩
            rw [(executeLine_of_unopenable launcher unopenable).2]
            simp
        | ok opened =>
            rcases executeLine_of_opened launcher parsed none found with
              ⟨openings, action, ran, sendings, opening, dispatched,
                answering, events⟩
            have never :=
              dispatch_ne_endSession launcher opened.world parsed none
            rw [dispatched] at never
            rw [events, List.mem_append, List.mem_cons]
            rintro (first | same | last)
            · exact opening.ran_notMem _ _ _ _ first
            · cases same
              exact never rfl
            · exact answering.ran_notMem _ _ _ _ last

/-- What is reported of an argument that `exit` does not take. -/
def exitRefusal (argument : Text) : Text :=
  "exit: ".toList ++ argument ++ ": numeric argument required".toList ++
    ['\n']

theorem exit_of_not_numeral
    {argument : Text} (outside : ∀ code, ¬ Numeral32 argument code)
    (ignored : List Text) :
    exit (argument :: ignored) =
      .output ⟨[], (exitRefusal argument).encode⟩ := by
  rw [exit, integer32?_eq_none_iff.mpr outside]
  rfl

/-- An `exit` that is refused says so on the command's error stream, and goes on if it can. -/
theorem executeLine_of_refused_exit
    {command : Command} {opened after : Delivery} {argument : Text}
    {ignored : List Text} {result : Except SystemError Unit}
    (parsed : Command.ofLine line = .ok command)
    (named : command.arguments = Builtin.exit.name :: argument :: ignored)
    (outside : ∀ code, ¬ Numeral32 argument code)
    (found : world.openDelivery command.redirection = .ok opened)
    (told :
      (Delivery.outlet .stderr).writeAll opened
          (exitRefusal argument).encode =
        (result, after)) :
    executeLine launcher world line =
      ((result.mapError ShellError.output).map fun _ => .proceed,
        after.close) := by
  have visible : command.isBlank = false := by
    rw [Command.isBlank, decide_eq_false_iff_not]
    rintro rfl
    cases named
  have present : Builtin.exit.name :: argument :: ignored ≠ [[]] := by
    simp
  have dispatched :
      dispatch launcher opened.world command.arguments =
        (.output ⟨[], (exitRefusal argument).encode⟩, opened.world) := by
    rw [named, dispatch_cons launcher opened.world present,
      World.meaning_name]
    simp only [Builtin.run, exit_of_not_numeral outside]
  have sent :
      opened.send ⟨[], (exitRefusal argument).encode⟩ = (result, after) := by
    rw [Delivery.send, deliver, told]
    cases result with
    | error cause => rfl
    | ok done => simp only [Outlet.writeAll]
  rw [executeLine, parsed]
  simp only [Command.execute, visible, Bool.false_eq_true, if_false, found,
    Delivery.execute, dispatched, sent]
  cases result <;> rfl

end Lines

/-! ### The status of a program that a line ends -/

section Status

variable {settings : Settings} {launcher : Launcher} {world : World}
  {turn : Turn} {turns : List Turn} {executions : List Execution}
  {code : Int} {final : World}

/-- The code of a session is that of the line that ends it. -/
theorem Course.code_eq_of_mem
    (course : Course settings launcher turn turns executions code final)
    {line : Text} {ending : Int}
    (member : ⟨line, .ok (.exit ending)⟩ ∈ executions) :
    code = ending := by
  induction course with
  | last ends =>
      cases ends with
      | exited ended executed =>
          rw [List.mem_singleton] at member
          cases member
          rfl
      | interrupted ended => cases member
      | inputEnded ended => cases member
  | next leads _ ih =>
      rcases List.mem_append.mp member with here | later
      · have none := leads.exitCode?_eq_none _ here
        cases none
      · exact ih later

/-- The program ends with the low eight bits of the code of its session. -/
theorem runShell_of_course
    {arrivals : List Arrival} {prompted : World}
    (shown :
      world.print (Key.carriageReturn :: Settings.standard.prompt) =
        (.ok (), prompted))
    (course :
      Course .standard launcher ⟨[], prompted, arrivals⟩ turns executions
        code final) :
    runShell launcher world arrivals = (exitStatus code, final) := by
  have ended : runSession .standard launcher world arrivals =
      ⟨.ok code, final⟩ := by
    rw [runSession, shown]
    exact course.converse_eq
  rw [runShell, ended]

theorem exitStatus_eq (code : Int) : (exitStatus code : Int) = code % 256 :=
  Int.toNat_of_nonneg (Int.emod_nonneg code (by decide))

end Status

/-- How a line stands to the end of the session. -/
structure LineEnding (launcher : Launcher) (world : World) (line : Text) :
    Prop where
  /-- Exactly the lines without words and the carried out exits end it. -/
  ends :
    ∀ code : Int,
      (executeLine launcher world line).1 = .ok (.exit code) ↔
        (splitWords line = [] ∧ code = 0) ∨
          ∃ command rest,
            Command.ofLine line = .ok command ∧
              world.CanOpen command.redirection ∧
              command.arguments = Builtin.exit.name :: rest ∧
              ExitArguments rest code
  /-- An exit with any other argument is reported, and the session goes on if that succeeds. -/
  refused :
    ∀ command argument ignored opened result after,
      Command.ofLine line = .ok command →
      command.arguments = Builtin.exit.name :: argument :: ignored →
      (∀ code, ¬ Numeral32 argument code) →
      world.openDelivery command.redirection = .ok opened →
      (Delivery.outlet .stderr).writeAll opened
          (exitRefusal argument).encode =
        (result, after) →
      executeLine launcher world line =
        ((result.mapError ShellError.output).map fun _ => .proceed,
          after.close)
  /-- The texts of a command that is not blank are not empty. -/
  nonempty :
    ∀ command, Command.ofLine line = .ok command →
      command.isBlank = false →
      (∀ argument ∈ command.arguments, argument ≠ []) ∧
        ∀ redirection ∈ command.redirection, redirection.target ≠ []
  /-- So no command that is run ends the session as the blank one. -/
  unreachable :
    ∀ before arguments after,
      .ran before arguments .endSession after ∉
        eventsOf launcher world line
  /-- A program that the line ends has the code modulo 256 as its status. -/
  status :
    ∀ start prompted arrivals turns executions last final code,
      start.print (Key.carriageReturn :: Settings.standard.prompt) =
        (.ok (), prompted) →
      Course .standard launcher ⟨[], prompted, arrivals⟩ turns executions
        last final →
      ⟨line, .ok (.exit code)⟩ ∈ executions →
      ((runShell launcher start arrivals).1 : Int) = code % 256

theorem lineEnding (launcher : Launcher) (world : World) (line : Text) :
    LineEnding launcher world line := by
  refine ⟨?_, ?_, ?_, ?_, ?_⟩
  · intro code
    exact executeLine_eq_exit_iff
  · intro command argument ignored opened result after parsed named outside
      found told
    exact executeLine_of_refused_exit parsed named outside found told
  · intro command parsed visible
    have nonempty := Command.ne_nil_of_mem_texts parsed visible
    constructor
    · intro argument member
      exact nonempty argument (List.mem_append_left _ member)
    · intro redirection redirected
      apply nonempty
      rw [Option.mem_def] at redirected
      simp [Command.texts, redirected]
  · intro before arguments after
    exact ran_endSession_notMem_eventsOf before after arguments
  · intro start prompted arrivals turns executions last final code shown
      course member
    rw [runShell_of_course shown course,
      course.code_eq_of_mem member]
    exact exitStatus_eq code

/-- The least code with leading zeros in front of a redirection, and a code that is too large. -/
theorem lineEnding_limits :
    (executeLine .quiet (.initial .minimal)
        "exit -002147483648 > log".toList).1 =
      .ok (.exit (-2147483648)) ∧
    (executeLine .quiet (.initial .minimal)
        "exit 2147483648".toList).1 =
      .ok .proceed := by
  have least :=
    (lineEnding .quiet (.initial .minimal)
      "exit -002147483648 > log".toList).ends (-2147483648)
  have larger :=
    (lineEnding .quiet (.initial .minimal)
      "exit 2147483648".toList).refused
  constructor
  · refine least.mpr (.inr ⟨_, _, rfl, ?_, rfl, .numeral ?_ []⟩)
    · exact World.canOpen_iff.mpr ⟨_, rfl⟩
    · exact integer32?_eq_some_iff.mp rfl
  · have outside : ∀ code, ¬ Numeral32 "2147483648".toList code :=
      integer32?_eq_none_iff.mp rfl
    have told :
        ((Delivery.outlet .stderr).writeAll
            ⟨.initial .minimal, none⟩
            (exitRefusal "2147483648".toList).encode).1 = .ok () := by
      decide +kernel
    rw [larger ⟨["exit".toList, "2147483648".toList], none⟩
      "2147483648".toList [] ⟨.initial .minimal, none⟩ _ _ rfl rfl
      outside rfl rfl, told]
    rfl

end InteractiveShell
