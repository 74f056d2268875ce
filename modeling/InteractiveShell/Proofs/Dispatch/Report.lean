import InteractiveShell.Proofs.Dispatch.Meaning
import InteractiveShell.Proofs.SearchPath.Lookup
import InteractiveShell.Proofs.Text.Encoding

/-!
# What `type` reports is what running a name does

The report of `type` on a name is a text.  It says that the name is a builtin command, gives the
path of a program, or says that nothing was found.  What running the name does is told apart by how
the result depends on the behaviour of programs: a program is started exactly if the result
is, for every launcher, that of one launch.  `type_iff_dispatch` ties each of the three reports
to what is done, for every name and all arguments behind it.

One text has two readings: that a name `is a shell builtin` could also mean that it is a program at
the path `a shell builtin`.  It does so only for the name `a shell builtin` itself, which is no
builtin command.
-/

namespace InteractiveShell

/-! ### The reports -/

/-- The words for every builtin command. -/
def builtinWords : Text :=
  "a shell builtin".toList

/-- The output says that a name is a builtin command. -/
def SaysBuiltin (name : Text) (output : Output) : Prop :=
  output = .ofText (name ++ " is ".toList ++ builtinWords ++ ['\n']) ∧
    name ≠ builtinWords

/-- The output says that a name is a program at a path. -/
def SaysProgram (name path : Text) (output : Output) : Prop :=
  output = .ofText (name ++ " is ".toList ++ path ++ ['\n']) ∧
    ¬ SaysBuiltin name output

/-- The output says that nothing was found under a name. -/
def SaysNotFound (name : Text) (output : Output) : Prop :=
  output = .ofError (name ++ ": not found".toList)

theorem Output.ofText_inj {first second : Text} :
    Output.ofText first = .ofText second ↔ first = second := by
  simp [Output.ofText, Text.encode_injective.eq_iff]

theorem Output.ofError_inj {first second : Text} :
    Output.ofError first = .ofError second ↔ first = second := by
  simp [Output.ofError, Text.encode_injective.eq_iff]

theorem Output.stderr_ofError_ne_nil (message : Text) :
    (Output.ofError message).stderr ≠ [] := by
  intro empty
  have same : message ++ ['\n'] = [] := Text.encode_injective empty
  simp at same

theorem Output.ofText_ne_ofError (text message : Text) :
    Output.ofText text ≠ .ofError message := by
  intro same
  have empty := congrArg Output.stderr same
  exact stderr_ofError_ne_nil message empty.symm

theorem Output.none_ne_ofError (message : Text) :
    Output.none ≠ .ofError message := by
  intro same
  have empty := congrArg Output.stderr same
  exact stderr_ofError_ne_nil message empty.symm

theorem account_builtin (name : Text) (command : Builtin) :
    World.account name (.builtin command) =
      .ofText (name ++ " is ".toList ++ builtinWords ++ ['\n']) := by
  have joined :
      " is a shell builtin\n".toList =
        " is ".toList ++ builtinWords ++ ['\n'] := by
    decide
  rw [World.account, joined]
  simp only [List.append_assoc]

section Says

variable {world : World} {name : Text}

/-- The words for builtin commands are read as a path for their own name only. -/
theorem saysBuiltin_account_iff
    {meaning : Meaning} (means : world.meaning name = meaning) :
    SaysBuiltin name (World.account name meaning) ↔
      ∃ command, meaning = .builtin command := by
  constructor
  · rintro ⟨same, other⟩
    cases meaning with
    | builtin command => exact ⟨command, rfl⟩
    | program path =>
        have words : path = builtinWords := by
          simpa using Output.ofText_inj.mp same
        have flat : '/' ∉ path := by
          rw [words]
          decide
        have found := (World.meaning_eq_program_iff.mp means).2
        have named := World.eq_of_find?_eq_some found flat
        exact absurd (named.symm.trans words) other
    | nothing => exact absurd same.symm (Output.ofText_ne_ofError _ _)
  · rintro ⟨command, rfl⟩
    refine ⟨account_builtin name command, ?_⟩
    rw [← World.name_eq_of_meaning_eq_builtin means]
    cases command <;> decide

theorem saysProgram_account_iff
    {meaning : Meaning} (means : world.meaning name = meaning)
    {path : Text} :
    SaysProgram name path (World.account name meaning) ↔
      meaning = .program path := by
  rw [SaysProgram, saysBuiltin_account_iff means]
  constructor
  · rintro ⟨same, other⟩
    cases meaning with
    | builtin command => exact absurd ⟨command, rfl⟩ other
    | program found =>
        have said : found = path := by
          simpa using Output.ofText_inj.mp same
        rw [said]
    | nothing => exact absurd same.symm (Output.ofText_ne_ofError _ _)
  · rintro rfl
    exact ⟨rfl, nofun⟩

theorem saysNotFound_account_iff {meaning : Meaning} :
    SaysNotFound name (World.account name meaning) ↔
      meaning = .nothing := by
  cases meaning with
  | builtin command =>
      simp [SaysNotFound, World.account, Output.ofText_ne_ofError]
  | program path =>
      simp [SaysNotFound, World.account, Output.ofText_ne_ofError]
  | nothing => simp [SaysNotFound, World.account]

end Says

/-! ### What is done -/

/-- The arguments make a program start, with this launch and whatever programs do. -/
def Starts (world : World) (arguments : List Text) (launch : Launch) :
    Prop :=
  ∀ launcher,
    dispatch launcher world arguments = launch.act launcher world

/-- A builtin command is run under its name, whatever programs do. -/
def RunsBuiltin (world : World) (name : Text) (arguments : List Text) :
    Prop :=
  ∃ command : Builtin, command.name = name ∧
    ∀ launcher,
      dispatch launcher world (name :: arguments) =
        command.run world arguments

/-- Nothing is done but to say so on standard error, whatever programs do. -/
def AnswersNotFound (world : World) (name : Text)
    (arguments : List Text) : Prop :=
  ∀ launcher,
    dispatch launcher world (name :: arguments) =
      (.output
        ⟨[], Text.encode (name ++ ": command not found".toList ++ ['\n'])⟩,
        world)

/-- A launcher by which a program reveals whether its launch was a given one. -/
def Launch.revealing (launch : Launch) : Launcher :=
  fun world started =>
    (.ok ⟨if started = launch then [1] else [0], []⟩, world.files)

theorem Launch.act_revealing
    (launch started : Launch) (world : World) :
    (started.act launch.revealing world).1 =
      .output ⟨if started = launch then [1] else [0], []⟩ :=
  rfl

/-- Launches that act alike whatever programs do are the same. -/
theorem Launch.eq_of_act_eq
    {launch other : Launch} {world : World}
    (alike :
      ∀ launcher, launch.act launcher world = other.act launcher world) :
    launch = other := by
  have revealed := congrArg Prod.fst (alike other.revealing)
  rw [act_revealing, act_revealing] at revealed
  by_contra apart
  simp [apart] at revealed

/-- What a launch gives is not fixed before it is known what programs do. -/
theorem Launch.exists_act_ne
    (launch : Launch) (world : World) (result : Action × World) :
    ∃ launcher, launch.act launcher world ≠ result := by
  by_contra fixed
  push Not at fixed
  have quiet := fixed fun world _ => (.ok ⟨[0], []⟩, world.files)
  have loud := fixed fun world _ => (.ok ⟨[1], []⟩, world.files)
  have same := congrArg Prod.fst (quiet.trans loud.symm)
  simp [act, run] at same

/-- The start of the file at a path, in the directory that holds it. -/
structure Launch.IsOf (launch : Launch) (current path name : Text)
    (arguments : List Text) : Prop where
  program : Path.absolute? (some current) path = some launch.program
  absolute : Path.isAbsolute launch.program = true
  name : launch.name = name
  arguments : launch.arguments = arguments
  directory : launch.directory = Path.parent? launch.program

theorem World.isAbsolute_of_directoryPath?_eq_some
    {world : World} {current : Text}
    (readable : world.directoryPath? = some current) :
    Path.isAbsolute current = true := by
  rw [directoryPath?] at readable
  unfold FileSystem.pathOf? at readable
  split at readable
  · split at readable
    · cases readable
    · cases readable
      exact Path.isAbsolute_foldl_join rfl _
  · cases readable

theorem Launch.isOf_iff
    {world : World} {current : Text}
    (readable : world.directoryPath? = some current)
    {launch : Launch} {path name : Text} {arguments : List Text} :
    launch.IsOf current path name arguments ↔
      launch = world.launchOf name arguments path := by
  have rooted := World.isAbsolute_of_directoryPath?_eq_some readable
  rcases Path.exists_absolute?_eq_some rooted path with
    ⟨whole, made, absolute⟩
  rw [World.launchOf, readable, made]
  constructor
  · rintro ⟨program, _, rfl, rfl, directory⟩
    cases launch with
    | mk started name arguments within =>
        rw [made, Option.some_inj] at program
        dsimp only at program directory
        rw [Option.getD_some, directory, program]
  · rintro rfl
    exact ⟨made, absolute, rfl, rfl, rfl⟩

/-! ### Deeds and meanings -/

theorem Output.ofError_ne_of_ends
    {front back other ending : Text}
    (apart : ¬ back <:+ ending) (reverse : ¬ ending <:+ back) :
    Output.ofError (front ++ back) ≠ .ofError (other ++ ending) := by
  rw [Ne, Output.ofError_inj]
  intro same
  rcases List.suffix_or_suffix_of_suffix
      (List.suffix_append front back)
      (same ▸ List.suffix_append other ending) with
    within | around
  · exact apart within
  · exact reverse around

theorem World.type_ne_notFound
    (world : World) (arguments : List Text) (name : Text) :
    world.type arguments ≠
      .ofError (name ++ ": command not found".toList) := by
  cases arguments with
  | nil => exact Output.none_ne_ofError _
  | cons asked ignored =>
      rw [type_cons]
      cases world.meaning asked with
      | builtin command => exact Output.ofText_ne_ofError _ _
      | program path => exact Output.ofText_ne_ofError _ _
      | nothing => exact Output.ofError_ne_of_ends (by decide) (by decide)

theorem World.cd_ne_notFound
    (world : World) (arguments : List Text) (name : Text) :
    (world.cd arguments).1 ≠
      .ofError (name ++ ": command not found".toList) := by
  unfold cd
  split
  · show Output.ofError ([] ++ "cd: HOME not set".toList) ≠ _
    exact Output.ofError_ne_of_ends (by decide) (by decide)
  · split
    · exact Output.none_ne_ofError _
    · exact Output.ofError_ne_of_ends (by decide) (by decide)

/-- No builtin command answers what a name without meaning does. -/
theorem Builtin.run_ne_notFound
    (command : Builtin) (world : World) (arguments : List Text)
    (name : Text) :
    (command.run world arguments).1 ≠
      .output (.ofError (name ++ ": command not found".toList)) := by
  rw [Ne]
  cases command with
  | exit =>
      rw [run]
      unfold InteractiveShell.exit
      split
      · simp
      · split
        · simp
        · rw [Action.output.injEq]
          exact Output.ofError_ne_of_ends (by decide) (by decide)
  | echo =>
      rw [run, Action.output.injEq]
      exact Output.ofText_ne_ofError _ _
  | type =>
      rw [run, Action.output.injEq]
      exact World.type_ne_notFound world arguments name
  | pwd =>
      rw [run, Action.output.injEq]
      unfold World.pwd
      split
      · exact Output.ofText_ne_ofError _ _
      · exact Output.ofError_ne_of_ends (by decide) (by decide)
  | cd =>
      rw [run, Action.output.injEq]
      exact World.cd_ne_notFound world arguments name

section Deeds

variable {world : World} {name : Text} {arguments : List Text}

/-- Nothing is started where the result does not depend on what programs do. -/
theorem not_starts_of_fixed
    {asked : List Text} {result : Action × World}
    (fixed : ∀ launcher, dispatch launcher world asked = result)
    (launch : Launch) :
    ¬ Starts world asked launch := by
  intro starts
  rcases launch.exists_act_ne world result with ⟨launcher, differs⟩
  exact differs ((starts launcher).symm.trans (fixed launcher))

theorem runsBuiltin_iff (present : name :: arguments ≠ [[]]) :
    RunsBuiltin world name arguments ↔
      ∃ command, world.meaning name = .builtin command := by
  constructor
  · rintro ⟨command, rfl, _⟩
    exact ⟨command, World.meaning_name world command⟩
  · rintro ⟨command, means⟩
    refine ⟨command, World.name_eq_of_meaning_eq_builtin means, ?_⟩
    intro launcher
    rw [dispatch_cons launcher world present, means]

theorem answersNotFound_of_meaning
    (present : name :: arguments ≠ [[]])
    (means : world.meaning name = .nothing) :
    AnswersNotFound world name arguments := by
  intro launcher
  rw [dispatch_cons launcher world present, means]
  rfl

theorem starts_iff
    (present : name :: arguments ≠ [[]]) {launch : Launch} :
    Starts world (name :: arguments) launch ↔
      ∃ path, world.meaning name = .program path ∧
        launch = world.launchOf name arguments path := by
  constructor
  · intro starts
    cases means : world.meaning name with
    | builtin command =>
        rcases (runsBuiltin_iff present).mpr ⟨command, means⟩ with
          ⟨_, _, fixed⟩
        exact absurd starts (not_starts_of_fixed fixed launch)
    | program path =>
        have alike : ∀ launcher,
            launch.act launcher world =
              (world.launchOf name arguments path).act launcher world := by
          intro launcher
          rw [← starts launcher, dispatch_cons launcher world present, means]
        exact ⟨path, rfl, Launch.eq_of_act_eq alike⟩
    | nothing =>
        have fixed := answersNotFound_of_meaning present means
        exact absurd starts (not_starts_of_fixed fixed launch)
  · rintro ⟨path, means, rfl⟩ launcher
    rw [dispatch_cons launcher world present, means]

theorem answersNotFound_iff (present : name :: arguments ≠ [[]]) :
    AnswersNotFound world name arguments ↔
      world.meaning name = .nothing := by
  constructor
  · intro answers
    cases means : world.meaning name with
    | builtin command =>
        have same := answers .quiet
        rw [dispatch_cons _ world present, means] at same
        exact absurd (congrArg Prod.fst same)
          (command.run_ne_notFound world arguments name)
    | program path =>
        have starts := (starts_iff present).mpr ⟨path, means, rfl⟩
        exact absurd starts (not_starts_of_fixed answers _)
    | nothing => rfl
  · exact answersNotFound_of_meaning present

end Deeds

/-! ### Reports and deeds -/

/-- The report of `type` on a name is what running the name does. -/
structure ReportHolds (world : World) (name : Text)
    (arguments : List Text) : Prop where
  asked :
    ∀ launcher,
      dispatch launcher world [Builtin.type.name, name] =
        (.output (world.type [name]), world)
  builtin :
    SaysBuiltin name (world.type [name]) ↔
      RunsBuiltin world name arguments
  program :
    ∀ current, world.directoryPath? = some current →
      ∀ launch,
        Starts world (name :: arguments) launch ↔
          ∃ path, SaysProgram name path (world.type [name]) ∧
            launch.IsOf current path name arguments
  /-- A program is started only where one is reported. -/
  started :
    ∀ launch, Starts world (name :: arguments) launch →
      ∃ path, SaysProgram name path (world.type [name])
  notFound :
    SaysNotFound name (world.type [name]) ↔
      AnswersNotFound world name arguments
  /-- Exactly one of the three is reported, and at most one path. -/
  single :
    (SaysBuiltin name (world.type [name]) ∧
        (∀ path, ¬ SaysProgram name path (world.type [name])) ∧
        ¬ SaysNotFound name (world.type [name])) ∨
      (¬ SaysBuiltin name (world.type [name]) ∧
        (∃! path, SaysProgram name path (world.type [name])) ∧
        ¬ SaysNotFound name (world.type [name])) ∨
      (¬ SaysBuiltin name (world.type [name]) ∧
        (∀ path, ¬ SaysProgram name path (world.type [name])) ∧
        SaysNotFound name (world.type [name]))

theorem type_iff_dispatch
    (world : World) {name : Text} (nonempty : name ≠ [])
    (arguments : List Text) :
    ReportHolds world name arguments := by
  have present : name :: arguments ≠ [[]] := by
    intro same
    exact nonempty (List.cons.inj same).1
  have told : world.type [name] = World.account name (world.meaning name) :=
    World.type_cons world name []
  refine ⟨?_, ?_, ?_, ?_, ?_, ?_⟩
  · intro launcher
    rw [dispatch_cons launcher world (by simp), World.meaning_name]
    rfl
  · rw [told, saysBuiltin_account_iff rfl, runsBuiltin_iff present]
  · intro current readable launch
    simp only [told, saysProgram_account_iff rfl, Launch.isOf_iff readable,
      starts_iff present]
  · intro launch starts
    rcases (starts_iff present).mp starts with ⟨path, means, _⟩
    rw [told]
    exact ⟨path, (saysProgram_account_iff rfl).mpr means⟩
  · rw [told, saysNotFound_account_iff, answersNotFound_iff present]
  · simp only [told, saysBuiltin_account_iff rfl,
      saysProgram_account_iff rfl, saysNotFound_account_iff]
    cases world.meaning name with
    | builtin command => simp
    | program path => simp
    | nothing => simp

/-- A world with a program in a directory on the search path. -/
def World.withTool : World :=
  { World.initial
      ⟨#[.directory ⟨[], 0, [("bin".toList, 1)], false, true⟩,
        .directory ⟨["bin".toList], 0, [("tool".toList, 2)], false, true⟩,
        .file 0o755 []]⟩ with
    environment := ⟨some "bin".toList, none⟩ }

/-- The relative path that is reported is made absolute, and the arguments stay as they are. -/
theorem type_iff_dispatch_tool :
    SaysProgram "tool".toList "bin/tool".toList
        (World.withTool.type ["tool".toList]) ∧
      Starts World.withTool ["tool".toList, "a b".toList]
        ⟨"/bin/tool".toList, "tool".toList, ["a b".toList],
          some "/bin".toList⟩ := by
  have holds :
      ReportHolds .withTool "tool".toList ["a b".toList] :=
    type_iff_dispatch .withTool (by decide) ["a b".toList]
  have reported :
      SaysProgram "tool".toList "bin/tool".toList
        (World.withTool.type ["tool".toList]) := by
    constructor
    · decide +kernel
    · rintro ⟨same, _⟩
      revert same
      decide +kernel
  constructor
  · exact reported
  · apply (holds.program ['/'] rfl _).mpr
    exact ⟨_, reported, ⟨by decide, by decide, rfl, rfl, by decide⟩⟩

end InteractiveShell
