import InteractiveShell.Proofs.Command.Rendering
import InteractiveShell.Proofs.Completion.Candidate
import InteractiveShell.Proofs.Dispatch.Report
import InteractiveShell.Proofs.Editor.Handled
import InteractiveShell.Proofs.Outlet.Steady
import InteractiveShell.Proofs.Session.BlankLine

/-!
# Entering a completed name

A tab that finds a single candidate leaves it in the buffer with a space behind it, and the enter
key submits that line.  As long as the candidate has no character with a meaning of its own, the
line denotes the command of that one argument, and running it runs the builtin command or the
program of that name.  `enters_candidate` follows the candidate from the key to the command and to
what the command gives.
-/

namespace InteractiveShell

/-! ### The keys -/

section Keys

variable {σ : Type} {completer : Completer} {outlet : Outlet σ}
variable {edit : Edit} {name : Text}

theorem append_remainder
    {beginning text : Text} (begins : beginning <+: text) :
    beginning ++ remainder beginning text = text := by
  rcases begins with ⟨rest, rfl⟩
  have found : beginning.isPrefixOf? (beginning ++ rest) = some rest :=
    List.isPrefixOf?_eq_some_iff_append_eq.mpr rfl
  rw [remainder, found]
  rfl

/-- A tab leaves the only candidate in the buffer, with a space behind it. -/
theorem Edit.exists_press_tab_eq_proceed
    (single : completer edit.buffer.text = [name])
    (begins : edit.buffer.text <+: name) :
    ∃ completed shown,
      edit.press completer Key.tab = .proceed completed shown ∧
        completed.buffer.text = name ++ [' '] := by
  have pressed :
      edit.press completer Key.tab =
        edit.insert (remainder edit.buffer.text name ++ [' ']) := by
    rw [press, if_pos rfl, single]
    rfl
  refine ⟨_, _, pressed, ?_⟩
  rw [Buffer.text_append, ← List.append_assoc, append_remainder begins]

theorem Edit.press_enter
    (completer : Completer) (edit : Edit) {enter : Char}
    (enters : enter = Key.carriageReturn ∨ enter = Key.lineFeed) :
    edit.press completer enter =
      .finish (.submitted edit.buffer.text) newLine := by
  rcases enters with rfl | rfl <;> rfl

/-- An outlet that does not fail lets an edit go on behind a key that does not end it. -/
theorem Outlet.Steady.exists_runEdit_eq
    {ready : σ → Prop} (steady : outlet.Steady ready)
    {output : σ} (begun : ready output)
    {byte : UInt8} {key : Char}
    (decoded : Utf8.Decoder.idle.feed byte = (.idle, [key]))
    {next : Edit} {shown : Text}
    (pressed : edit.press completer key = .proceed next shown)
    (rest : List Arrival) :
    ∃ after, ready after ∧
      runEdit completer outlet .idle edit output (.byte byte :: rest) =
        runEdit completer outlet .idle next after rest := by
  rcases steady.writeAll_ok begun shown.encode with
    ⟨after, written, still⟩
  refine ⟨after, still, ?_⟩
  have performed :
      edit.pressAll completer outlet output [key] =
        .editing next after := by
    rw [Edit.pressAll_singleton, pressed, Reaction.perform, written]
  simp only [runEdit, decoded, performed]

theorem Outlet.Steady.exists_runEdit_eq_of_finish
    {ready : σ → Prop} (steady : outlet.Steady ready)
    {output : σ} (begun : ready output)
    {byte : UInt8} {key : Char}
    (decoded : Utf8.Decoder.idle.feed byte = (.idle, [key]))
    {outcome : Outcome} {shown : Text}
    (pressed : edit.press completer key = .finish outcome shown)
    (rest : List Arrival) :
    ∃ after, ready after ∧
      runEdit completer outlet .idle edit output (.byte byte :: rest) =
        ⟨.ok outcome, rest, after⟩ := by
  rcases steady.conclude_ok begun outcome shown with
    ⟨after, concluded, still⟩
  refine ⟨after, still, ?_⟩
  have performed :
      edit.pressAll completer outlet output [key] =
        .stopped (.ok outcome) after := by
    rw [Edit.pressAll_singleton, pressed]
    simp only [Reaction.perform, concluded]
  simp only [runEdit, decoded, performed]

/-- Tab and enter submit the only candidate, with a space behind it. -/
theorem Outlet.Steady.exists_runEdit_eq_submitted
    {ready : σ → Prop} (steady : outlet.Steady ready)
    {output : σ} (begun : ready output)
    (single : completer edit.buffer.text = [name])
    (begins : edit.buffer.text <+: name)
    {enter : Char}
    (enters : enter = Key.carriageReturn ∨ enter = Key.lineFeed)
    (rest : List Arrival) :
    ∃ after, ready after ∧
      runEdit completer outlet .idle edit output
          (.byte (ascii Key.tab) :: .byte (ascii enter) :: rest) =
        ⟨.ok (.submitted (name ++ [' '])), rest, after⟩ := by
  rcases Edit.exists_press_tab_eq_proceed single begins with
    ⟨completed, shown, pressed, held⟩
  have decodedTab :
      Utf8.Decoder.idle.feed (ascii Key.tab) = (.idle, [Key.tab]) := by
    decide
  have decoded :
      Utf8.Decoder.idle.feed (ascii enter) = (.idle, [enter]) := by
    rcases enters with rfl | rfl <;> decide
  rcases steady.exists_runEdit_eq begun decodedTab pressed
      (.byte (ascii enter) :: rest) with
    ⟨between, stillReady, tabbed⟩
  have entered := Edit.press_enter completer completed enters
  rcases steady.exists_runEdit_eq_of_finish stillReady decoded entered
      rest with
    ⟨after, readyAfter, ended⟩
  refine ⟨after, readyAfter, ?_⟩
  rw [tabbed, ended, held]

end Keys

/-! ### The line -/

/-- A text without white space, quotes and backslashes. -/
def Bare (text : Text) : Prop :=
  ∀ character ∈ text, isBlank character = false ∧ character ∉ quotations

instance (text : Text) : Decidable (Bare text) :=
  List.decidableBAll _ text

theorem wordOf?_map_plain {text : Text} (nonempty : text ≠ []) :
    wordOf? (text.map Segment.plain) = some ⟨text, false⟩ := by
  have bare :
      ((text.map Segment.plain).any fun segment => !segment.isPlain) =
        false := by
    simp [Segment.isPlain]
  rw [wordOf?, Segment.flatMap_text_map_plain, bare]
  cases text with
  | nil => exact absurd rfl nonempty
  | cons first rest => rfl

theorem splitWords_of_bare
    {text : Text} (bare : Bare text) (nonempty : text ≠ []) :
    splitWords (text ++ [' ']) = [⟨text, false⟩] := by
  have passed : Passed text (text.map Segment.plain) := by
    apply Passed.plain
    intro character member
    rcases bare character member with ⟨visible, unquoted⟩
    simp only [quotations, List.mem_cons, List.not_mem_nil, or_false,
      not_or] at unquoted
    exact ⟨unquoted.2.2, unquoted.1, unquoted.2.1, visible⟩
  have scanned := passed [] [' ']
  rw [Scanner.behind_nil, List.nil_append,
    Scanner.words_separator (by decide), wordOf?_map_plain nonempty]
    at scanned
  exact scanned

theorem Command.ofLine_of_bare
    {name : Text} (bare : Bare name) (nonempty : name ≠ [])
    (data : name ∉ Redirection.operators.map Prod.fst) :
    ofLine (name ++ [' ']) = .ok ⟨[name], none⟩ := by
  have argument : Word.operator? ⟨name, false⟩ = none := by
    rw [Word.operator?, if_neg Bool.false_ne_true, List.lookup_eq_none_iff]
    intro entry member
    rw [bne_iff_ne]
    rintro rfl
    exact data (List.mem_map_of_mem member)
  rw [ofLine, splitWords_of_bare bare nonempty]
  show collect [⟨name, false⟩] = _
  rw [collect, argument]
  rfl

/-! ### The command -/

theorem World.SameLookup.meaning_eq
    {world later : World} (same : world.SameLookup later) (name : Text) :
    later.meaning name = world.meaning name := by
  rw [meaning, meaning, same.find?_eq]

/-- What a builtin command does without arguments, and the world after it. -/
inductive Builtin.GivesAlone (world : World) :
    Builtin → Action × World → Prop where
  | exit : GivesAlone world .exit (.exit 0, world)
  | echo : GivesAlone world .echo (.output ⟨Text.encode ['\n'], []⟩, world)
  | type : GivesAlone world .type (.output ⟨[], []⟩, world)
  | pwd {path : Text} (located : world.directoryPath? = some path) :
      GivesAlone world .pwd
        (.output ⟨Text.encode (path ++ ['\n']), []⟩, world)
  | lost (removed : world.directoryPath? = none) :
      GivesAlone world .pwd
        (.output
          ⟨[], Text.encode
            ("pwd: ".toList ++ SystemError.noSuchEntry.message ++ ['\n'])⟩,
          world)
  | cd {home : Text} {id : NodeId}
      (set : world.environment.home = some home)
      (leads : world.files.resolveDirectory world.directory home = .ok id) :
      GivesAlone world .cd
        (.output ⟨[], []⟩, { world with directory := id })
  | homeless (unset : world.environment.home = none) :
      GivesAlone world .cd
        (.output
          ⟨[], Text.encode ("cd: HOME not set".toList ++ ['\n'])⟩,
          world)
  | astray {home : Text} {cause : SystemError}
      (set : world.environment.home = some home)
      (stuck :
        world.files.resolveDirectory world.directory home =
          .error cause) :
      GivesAlone world .cd
        (.output
          ⟨[], Text.encode
            ("cd: ".toList ++ home ++
              ": No such file or directory".toList ++ ['\n'])⟩,
          world)

theorem Builtin.givesAlone_run (command : Builtin) (world : World) :
    command.GivesAlone world (command.run world []) := by
  cases command with
  | exit => exact .exit
  | echo => exact .echo
  | type => exact .type
  | pwd =>
      rw [run, World.pwd]
      cases located : world.directoryPath? with
      | none => exact .lost located
      | some path => exact .pwd located
  | cd =>
      rw [run, World.cd, World.cdTarget?]
      cases set : world.environment.home with
      | none => exact .homeless set
      | some home =>
          dsimp only
          rw [World.changeDirectory]
          cases leads :
              world.files.resolveDirectory world.directory home with
          | ok id => exact .cd set leads
          | error cause => exact .astray set leads

/-- What a launch gives is what the launcher answers to it, and the files are left as it says.  If
the program does not start, the reason stands on standard error behind the program's name. -/
structure Launch.Gives (launch : Launch) (launcher : Launcher)
    (world : World) (given : Action × World) : Prop where
  ran :
    ∀ output files, launcher world launch = (.ok output, files) →
      given = (.output output, { world with files := files })
  failed :
    ∀ cause files, launcher world launch = (.error cause, files) →
      given =
        (.output
          ⟨[], Text.encode
            (launch.name ++ ": ".toList ++ cause.message ++ ['\n'])⟩,
          { world with files := files })

theorem Launch.gives_act
    (launch : Launch) (launcher : Launcher) (world : World) :
    launch.Gives launcher world (launch.act launcher world) where
  ran output files answered := by
    rw [act, run, answered]
  failed cause files answered := by
    rw [act, run, answered]
    rfl

/-- What is run under a name without arguments: the builtin command of that name, or the program
that is found under it. -/
inductive RunsAlone (launcher : Launcher) (world : World) (name : Text) :
    Prop where
  | builtin {command : Builtin} (named : command.name = name)
      (ran : dispatch launcher world [name] = command.run world [])
      (gives : command.GivesAlone world (dispatch launcher world [name]))
  | program {path program : Text} (ordinary : Builtin.named? name = none)
      (found : world.find? name = some path)
      (executable : world.isExecutable path = true)
      (absolute :
        program = (Path.absolute? world.directoryPath? path).getD path)
      (gives :
        Launch.Gives ⟨program, name, [], Path.parent? program⟩ launcher
          world (dispatch launcher world [name]))

theorem runsAlone_of_meaning_ne_nothing
    {world : World} {name : Text} (launcher : Launcher)
    (present : [name] ≠ [[]]) (meant : world.meaning name ≠ .nothing) :
    RunsAlone launcher world name := by
  have ran := dispatch_cons launcher world present
  cases means : world.meaning name with
  | builtin command =>
      rw [means] at ran
      refine
        .builtin (World.name_eq_of_meaning_eq_builtin means) ran ?_
      rw [ran]
      exact command.givesAlone_run world
  | program path =>
      rw [means] at ran
      rcases World.meaning_eq_program_iff.mp means with ⟨ordinary, found⟩
      refine
        .program ordinary found (World.isExecutable_of_find?_eq_some found)
          rfl ?_
      rw [ran]
      exact
        Launch.gives_act (world.launchOf name [] path) launcher world
  | nothing => exact absurd means meant

/-- What becomes of the only candidate for a buffer when it is completed and entered. -/
structure EntersCandidate (world : World) (edit : Edit) (name : Text) :
    Prop where
  /-- The line is the candidate with a space behind it. -/
  submitted :
    ∀ {σ : Type} (outlet : Outlet σ) (ready : σ → Prop) (output : σ)
      (enter : Char) (rest : List Arrival),
      outlet.Steady ready → ready output →
      (enter = Key.carriageReturn ∨ enter = Key.lineFeed) →
      ∃ after, ready after ∧
        runEdit (world.candidates Builtin.names) outlet .idle edit output
            (.byte (ascii Key.tab) :: .byte (ascii enter) :: rest) =
          ⟨.ok (.submitted (name ++ [' '])), rest, after⟩
  parsed : Command.ofLine (name ++ [' ']) = .ok ⟨[name], none⟩
  visible : Command.isBlank ⟨[name], none⟩ = false
  executed :
    ∀ launcher later,
      executeLine launcher later (name ++ [' ']) =
        Delivery.execute ⟨later, none⟩ launcher [name]
  runs :
    ∀ launcher later, world.SameLookup later →
      RunsAlone launcher later name
  /-- No other command than `exit` ends the session. -/
  ends :
    ∀ launcher later code,
      (executeLine launcher later (name ++ [' '])).1 = .ok (.exit code) →
        name = Builtin.exit.name ∧ code = 0
  answers :
    ∀ later, world.SameLookup later → ¬ AnswersNotFound later name []

/-- Whatever tab completes to a single bare name, enter runs. -/
theorem enters_candidate
    {world : World} {edit : Edit} {name : Text}
    (named : world.files.WellNamed)
    (single :
      world.candidates Builtin.names edit.buffer.text = [name])
    (bare : Bare name)
    (data : name ∉ Redirection.operators.map Prod.fst) :
    EntersCandidate world edit name := by
  have member : name ∈ world.candidates Builtin.names edit.buffer.text := by
    rw [single]
    exact List.mem_singleton_self name
  have begins := (World.mem_candidates_iff.mp member).1
  have nonempty := World.ne_nil_of_mem_candidates named member
  have present : [name] ≠ [[]] := by
    intro same
    exact nonempty (List.singleton_inj.mp same)
  have parsed := Command.ofLine_of_bare bare nonempty data
  have meant : ∀ later, world.SameLookup later →
      later.meaning name ≠ .nothing := by
    intro later same
    rw [same.meaning_eq]
    exact World.meaning_ne_nothing_of_mem_candidates named member
  have visible : Command.isBlank ⟨[name], none⟩ = false := by
    apply decide_eq_false
    intro same
    exact present (congrArg Command.arguments same)
  refine ⟨?_, parsed, visible, ?_, ?_, ?_, ?_⟩
  · intro σ outlet ready output enter rest steady begun enters
    exact
      steady.exists_runEdit_eq_submitted begun single begins enters rest
  · intro launcher later
    rw [executeLine, parsed]
    simp only [Command.execute, visible]
    rfl
  · intro launcher later same
    exact runsAlone_of_meaning_ne_nothing launcher present (meant later same)
  · intro launcher later code exits
    rcases executeLine_eq_exit_iff.mp exits with
      ⟨none, _⟩ | ⟨command, rest, read, _, exit, arguments⟩
    · rw [splitWords_of_bare bare nonempty] at none
      cases none
    · rw [parsed] at read
      cases read
      rcases List.cons.inj exit with ⟨same, last⟩
      rw [← last] at arguments
      cases arguments
      exact ⟨same, rfl⟩
  · intro later same
    rw [answersNotFound_iff present]
    exact meant later same

/--
A program that is the only candidate for its first two letters.  One launcher
writes which file was started under which name and takes all files away, and
under the other one no program starts.
-/
theorem enters_candidate_tool :
    let telling : Launcher := fun _ started =>
      (.ok ⟨started.program.encode, started.name.encode⟩, .bare)
    let forbidding : Launcher := fun world _ =>
      (.error .permissionDenied, world.files)
    EntersCandidate .withTool (.start "to".toList) "tool".toList ∧
      dispatch telling .withTool ["tool".toList] =
        (.output
          ⟨Text.encode "/bin/tool".toList, Text.encode "tool".toList⟩,
          { World.withTool with files := .bare }) ∧
      dispatch forbidding .withTool ["tool".toList] =
        (.output
          ⟨[], Text.encode
            ("tool: Permission denied (os error 13)".toList ++ ['\n'])⟩,
          .withTool) := by
  intro telling forbidding
  have gathered :
      Builtin.names.filter "to".toList.isPrefixOf ++
          World.withTool.executablesFrom "to".toList =
        ["tool".toList] := by
    decide +kernel
  have single :
      World.withTool.candidates Builtin.names
          (Edit.start "to".toList).buffer.text =
        ["tool".toList] := by
    show sortedNames
        (Builtin.names.filter "to".toList.isPrefixOf ++
          World.withTool.executablesFrom "to".toList) = _
    rw [gathered, sortedNames, List.mergeSort_singleton]
    rfl
  have enters :
      EntersCandidate .withTool (.start "to".toList) "tool".toList :=
    enters_candidate (by decide) single (by decide) (by decide)
  have started (launcher : Launcher) :
      Launch.Gives
        ⟨"/bin/tool".toList, "tool".toList, [], some "/bin".toList⟩ launcher
        .withTool (dispatch launcher .withTool ["tool".toList]) := by
    cases enters.runs launcher .withTool ⟨rfl, rfl, rfl⟩ with
    | builtin named ran gives =>
        rename_i command
        cases command <;> exact absurd named (by decide)
    | program ordinary found executable absolute gives =>
        rename_i path program
        have looked :
            World.withTool.find? "tool".toList =
              some "bin/tool".toList := by
          decide +kernel
        rw [looked, Option.some_inj] at found
        subst found
        have whole : program = "/bin/tool".toList := by
          rw [absolute]
          decide +kernel
        subst whole
        exact gives
  exact
    ⟨enters, (started telling).ran _ _ rfl,
      (started forbidding).failed _ _ rfl⟩

end InteractiveShell
