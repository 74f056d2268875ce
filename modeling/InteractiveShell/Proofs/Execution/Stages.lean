import InteractiveShell.Proofs.Execution.Frame
import InteractiveShell.Proofs.FileSystem.Content

/-!
# The stages of a line

`Stages` are the operations by which a line can have an effect, and `Stages.execute` executes a line
by them; with the shell's own operations it is `executeLine`.  Observed operations keep a log of what
they were asked for and what they answered, so the log of a line, `eventsOf`, says which stages took
place, in which order and how often.
-/

namespace InteractiveShell

/-- The operations by which a line has an effect, on states of any kind. -/
structure Stages (σ : Type) where
  openTarget : σ → Redirection → Except ShellError Unit × σ
  run : σ → List Text → Action × σ
  send : σ → Output → Except SystemError Unit × σ
  close : σ → σ

/-- An operation that took place, between the states before and after it. -/
inductive Event (σ : Type) where
  | opened (before : σ) (redirection : Redirection)
      (result : Except ShellError Unit) (after : σ)
  | ran (before : σ) (arguments : List Text) (action : Action) (after : σ)
  | sent (before : σ) (output : Output)
      (result : Except SystemError Unit) (after : σ)

namespace Stages

variable {σ : Type} (stages : Stages σ)

/-- Opens the target of a command's redirection, if there is one. -/
def openFor (state : σ) : Option Redirection → Except ShellError Unit × σ
  | none => (.ok (), state)
  | some redirection => stages.openTarget state redirection

/-- Does what a command's action asks for. -/
def answer (state : σ) : Action → Except ShellError Flow × σ
  | .exit code => (.ok (.exit code), stages.close state)
  | .endSession => (.ok (.exit 0), stages.close state)
  | .output output =>
    match stages.send state output with
    | (.ok (), sent) => (.ok .proceed, stages.close sent)
    | (.error cause, sent) => (.error (.output cause), stages.close sent)

/-- Executes a line by the given operations. -/
def execute (state : σ) (line : Text) : Except ShellError Flow × σ :=
  match Command.ofLine line with
  | .error error => (.error error, state)
  | .ok command =>
    if command.isBlank then
      (.ok (.exit 0), state)
    else
      match stages.openFor state command.redirection with
      | (.error error, after) => (.error error, after)
      | (.ok (), opened) =>
        let (action, ran) := stages.run opened command.arguments
        stages.answer ran action

/-- The shell's own operations. -/
def shell (launcher : Launcher) : Stages Delivery where
  openTarget delivery redirection :=
    match delivery.world.openDelivery (some redirection) with
    | .error error => (.error error, delivery)
    | .ok opened => (.ok (), opened)
  run delivery arguments :=
    let (action, world) := dispatch launcher delivery.world arguments
    (action, { delivery with world := world })
  send := Delivery.send
  close delivery := ⟨delivery.close, none⟩

/-- Operations that log what they do, behind what is logged already. -/
def observed : Stages (σ × List (Event σ)) where
  openTarget state redirection :=
    let (result, after) := stages.openTarget state.1 redirection
    (result, after,
      state.2 ++ [.opened state.1 redirection result after])
  run state arguments :=
    let (action, after) := stages.run state.1 arguments
    (action, after, state.2 ++ [.ran state.1 arguments action after])
  send state output :=
    let (result, after) := stages.send state.1 output
    (result, after, state.2 ++ [.sent state.1 output result after])
  close state := (stages.close state.1, state.2)

theorem openFor_shell
    (launcher : Launcher) (world : World)
    (redirection? : Option Redirection) :
    (shell launcher).openFor ⟨world, none⟩ redirection? =
      match world.openDelivery redirection? with
      | .error error => (.error error, ⟨world, none⟩)
      | .ok opened => (.ok (), opened) := by
  cases redirection? <;> rfl

theorem answer_shell
    (launcher : Launcher) (delivery : Delivery)
    (arguments : List Text) :
    let (action, ran) := (shell launcher).run delivery arguments
    (shell launcher).answer ran action =
      ((delivery.execute launcher arguments).1,
        ⟨(delivery.execute launcher arguments).2, none⟩) := by
  rcases dispatched : dispatch launcher delivery.world arguments with
    ⟨action, world⟩
  simp only [shell, dispatched, Delivery.execute]
  cases action with
  | exit code => rfl
  | endSession => rfl
  | output output =>
      simp only [answer]
      split <;> simp [*]

/-- With the shell's own operations a line is executed as `executeLine` executes it. -/
theorem execute_shell
    (launcher : Launcher) (world : World) (line : Text) :
    (shell launcher).execute ⟨world, none⟩ line =
      ((executeLine launcher world line).1,
        ⟨(executeLine launcher world line).2, none⟩) := by
  unfold execute executeLine
  cases Command.ofLine line with
  | error error => rfl
  | ok command =>
      simp only [Command.execute, openFor_shell]
      split
      · rfl
      · cases world.openDelivery command.redirection with
        | error error => rfl
        | ok opened => exact answer_shell launcher opened command.arguments

/-- Being observed changes neither the answer to an action nor the state after it. -/
theorem answer_observed
    (state : σ) (events : List (Event σ)) (action : Action) :
    ∃ later,
      stages.observed.answer (state, events) action =
        ((stages.answer state action).1,
          (stages.answer state action).2, events ++ later) := by
  cases action with
  | exit code => exact ⟨[], by simp [answer, observed]⟩
  | endSession => exact ⟨[], by simp [answer, observed]⟩
  | output output =>
      rcases delivered : stages.send state output with ⟨result, sent⟩
      refine ⟨[.sent state output result sent], ?_⟩
      cases result <;> simp [answer, observed, delivered]

theorem openFor_observed
    (state : σ) (events : List (Event σ))
    (redirection? : Option Redirection) :
    ∃ later,
      stages.observed.openFor (state, events) redirection? =
        ((stages.openFor state redirection?).1,
          (stages.openFor state redirection?).2, events ++ later) := by
  cases redirection? with
  | none => exact ⟨[], by simp [openFor]⟩
  | some redirection => exact ⟨[_], rfl⟩

/-- Being observed changes neither what a line answers nor the state that it leaves. -/
theorem execute_observed
    (state : σ) (events : List (Event σ)) (line : Text) :
    ∃ later,
      stages.observed.execute (state, events) line =
        ((stages.execute state line).1,
          (stages.execute state line).2, events ++ later) := by
  unfold execute
  cases Command.ofLine line with
  | error error => exact ⟨[], by simp⟩
  | ok command =>
      simp only
      split
      · exact ⟨[], by simp⟩
      · rcases stages.openFor_observed state events command.redirection with
          ⟨openings, watched⟩
        rcases opened : stages.openFor state command.redirection with
          ⟨result, between⟩
        rw [opened] at watched
        rw [watched]
        cases result with
        | error error => exact ⟨openings, rfl⟩
        | ok done =>
            rcases ran : stages.run between command.arguments with
              ⟨action, after⟩
            have watchedRun :
                stages.observed.run (between, events ++ openings)
                    command.arguments =
                  (action, after, events ++ openings ++
                    [.ran between command.arguments action after]) := by
              simp [observed, ran]
            rcases stages.answer_observed after
                (events ++ openings ++
                  [.ran between command.arguments action after])
                action with
              ⟨sendings, answered⟩
            refine
              ⟨openings ++
                .ran between command.arguments action after :: sendings, ?_⟩
            simp only [watchedRun, ran]
            rw [answered]
            simp

end Stages

/-- The operations of the shell that a line makes it do, in order. -/
def eventsOf (launcher : Launcher) (world : World) (line : Text) :
    List (Event Delivery) :=
  ((Stages.shell launcher).observed.execute (⟨world, none⟩, []) line).2.2

/-! ### The words of a line and its command -/

theorem Scanner.text_ne_nil_of_mem_words
    {scanner : Scanner} {line : Text} {word : Word}
    (member : word ∈ scanner.words line) :
    word.text ≠ [] := by
  have nonempty {scanner : Scanner} (found : scanner.word? = some word) :
      word.text ≠ [] := by
    unfold Scanner.word? at found
    split at found
    · cases found
    · rename_i present
      cases found
      simpa using present
  induction line generalizing scanner with
  | nil =>
      rw [words, Option.mem_toList] at member
      exact nonempty member
  | cons character rest ih =>
      rw [words] at member
      split at member
      · split at member
        · rename_i first found
          rcases List.mem_cons.mp member with rfl | later
          · exact nonempty found
          · exact ih later
        · exact ih member
      · exact ih member

namespace Command

/-- The first operator among some words is the last of them. -/
def EndsInOperator (words : List Word) (operator : Word) : Prop :=
  operator.operator? ≠ none ∧
    ∃ front, words = front ++ [operator] ∧
      ∀ word ∈ front, word.operator? = none

theorem collect_eq_error_iff
    {words : List Word} {error : ShellError} :
    collect words = .error error ↔
      ∃ operator, EndsInOperator words operator ∧
        error = .missingRedirectTarget operator.text := by
  constructor
  · intro failed
    induction words with
    | nil => cases failed
    | cons word rest ih =>
        unfold collect at failed
        split at failed
        · rename_i data
          rcases collected : collect rest with cause | command
          · rw [collected] at failed
            cases failed
            rcases ih collected with
              ⟨operator, ⟨operates, front, same, before⟩, caused⟩
            refine ⟨operator, ⟨operates, word :: front, ?_, ?_⟩, caused⟩
            · rw [same, List.cons_append]
            · simpa [data] using before
          · rw [collected] at failed
            cases failed
        · rename_i found
          split at failed
          · cases failed
            exact ⟨word, ⟨by simp [found], [], rfl, by simp⟩, rfl⟩
          · cases failed
  · rintro ⟨operator, ⟨operates, front, rfl, before⟩, rfl⟩
    induction front with
    | nil =>
        rcases found : operator.operator? with _ | ⟨stream, mode⟩
        · exact absurd found operates
        · rw [List.nil_append, collect, found]
    | cons word front ih =>
        have collected := ih fun other member => before other (by simp [member])
        rw [List.cons_append, collect, before word (by simp), collected]
        rfl

theorem ofLine_of_endsInOperator
    {line : Text} {operator : Word}
    (ends : EndsInOperator (splitWords line) operator) :
    ofLine line = .error (.missingRedirectTarget operator.text) := by
  have failed := collect_eq_error_iff.mpr ⟨operator, ends, rfl⟩
  have present : (splitWords line).isEmpty = false := by
    rcases ends with ⟨_, front, same, _⟩
    simp [same]
  rw [ofLine, ofWords, present, if_neg Bool.false_ne_true, failed]

theorem exists_endsInOperator
    {line : Text} {error : ShellError}
    (failed : ofLine line = .error error) :
    ∃ operator, EndsInOperator (splitWords line) operator := by
  unfold ofLine ofWords at failed
  split at failed
  · cases failed
  · rcases collect_eq_error_iff.mp failed with ⟨operator, ends, caused⟩
    exact ⟨operator, ends⟩

/-- Only a line without words is blank. -/
theorem isBlank_iff_splitWords_eq_nil
    {line : Text} {command : Command}
    (parsed : ofLine line = .ok command) :
    command.isBlank = true ↔ splitWords line = [] := by
  rw [isBlank, decide_eq_true_iff]
  constructor
  · rintro rfl
    rcases words : splitWords line with _ | ⟨first, rest⟩
    · rfl
    · exfalso
      have nonempty : first.text ≠ [] := by
        have member : first ∈ Scanner.fresh.words line := by
          rw [← splitWords, words]
          exact List.mem_cons_self
        exact Scanner.text_ne_nil_of_mem_words member
      rw [ofLine, words, ofWords, List.isEmpty_cons,
        if_neg Bool.false_ne_true, collect] at parsed
      split at parsed
      · rcases collected : collect rest with cause | command
        · rw [collected] at parsed
          cases parsed
        · rw [collected] at parsed
          simp only [Except.map, addArgument, blank, Except.ok.injEq,
            mk.injEq, List.cons.injEq] at parsed
          exact nonempty parsed.1.1
      · split at parsed <;> simp [blank] at parsed
  · intro none
    rw [ofLine, none] at parsed
    cases parsed
    rfl

theorem splitWords_ne_nil_of_ne_blank
    {line : Text} {command : Command}
    (parsed : ofLine line = .ok command) (visible : command ≠ .blank) :
    splitWords line ≠ [] := by
  rw [ne_eq, ← isBlank_iff_splitWords_eq_nil parsed, isBlank,
    decide_eq_true_iff]
  exact visible

end Command

/-! ### The stages of the shell -/

/-- A target of a line's redirection that cannot be opened, and why. -/
def World.Unopenable (world : World) (line : Text)
    (redirection : Redirection) (cause : SystemError) : Prop :=
  ∃ command,
    Command.ofLine line = .ok command ∧
      command.redirection = some redirection ∧
      world.files.openForWriting world.directory redirection.target
          redirection.mode =
        .error cause

/-- The opening that comes before a command is run, seen from the world before the line. -/
inductive Opening (world : World) :
    Option Redirection → Delivery → List (Event Delivery) → Prop where
  | nothing : Opening world none ⟨world, none⟩ []
  | target {redirection : Redirection} {handle : Handle}
      {files : FileSystem} {opened : Delivery}
      (found :
        world.files.openForWriting world.directory redirection.target
            redirection.mode =
          .ok (handle, files))
      (holds :
        opened =
          ⟨{ world with files := files, busy := [handle.node] },
            some (redirection.stream, handle)⟩) :
      Opening world (some redirection) opened
        [.opened ⟨world, none⟩ redirection (.ok ()) opened]

/-- What comes of an action once its command was run. -/
inductive Answering (ran : Delivery) :
    Action → Except ShellError Flow → World → List (Event Delivery) →
      Prop where
  | exited (code : Int) :
      Answering ran (.exit code) (.ok (.exit code)) ran.close []
  | ended : Answering ran .endSession (.ok (.exit 0)) ran.close []
  | delivered {output : Output} {sent : Delivery}
      (written : ran.send output = (.ok (), sent)) :
      Answering ran (.output output) (.ok .proceed) sent.close
        [.sent ran output (.ok ()) sent]
  | undelivered {output : Output} {cause : SystemError} {sent : Delivery}
      (failed : ran.send output = (.error cause, sent)) :
      Answering ran (.output output) (.error (.output cause)) sent.close
        [.sent ran output (.error cause) sent]

theorem World.exists_opening
    {world : World} {redirection? : Option Redirection}
    {opened : Delivery}
    (found : world.openDelivery redirection? = .ok opened)
    (launcher : Launcher) (events : List (Event Delivery)) :
    ∃ openings,
      Opening world redirection? opened openings ∧
        (Stages.shell launcher).observed.openFor (⟨world, none⟩, events)
            redirection? =
          (.ok (), opened, events ++ openings) := by
  cases redirection? with
  | none =>
      cases found
      exact ⟨[], .nothing, by simp [Stages.openFor]⟩
  | some redirection =>
      have answered :
          (Stages.shell launcher).openTarget ⟨world, none⟩ redirection =
            (.ok (), opened) := by
        simp [Stages.shell, found]
      refine
        ⟨[.opened ⟨world, none⟩ redirection (.ok ()) opened], ?_, ?_⟩
      · unfold openDelivery at found
        simp only at found
        split at found
        · cases found
        · rename_i handle files walked
          cases found
          exact .target walked rfl
      · simp [Stages.openFor, Stages.observed, answered]

theorem Delivery.exists_answering
    (launcher : Launcher) (ran : Delivery) (action : Action)
    (events : List (Event Delivery)) :
    ∃ result after sendings,
      Answering ran action result after sendings ∧
        (Stages.shell launcher).observed.answer (ran, events) action =
          (result, ⟨after, none⟩, events ++ sendings) := by
  cases action with
  | exit code =>
      exact ⟨_, _, [], .exited code, by
        simp [Stages.answer, Stages.observed, Stages.shell]⟩
  | endSession =>
      exact ⟨_, _, [], .ended, by
        simp [Stages.answer, Stages.observed, Stages.shell]⟩
  | output output =>
      rcases written : ran.send output with ⟨result, sent⟩
      cases result with
      | ok done =>
          exact ⟨_, _, _, .delivered written, by
            simp [Stages.answer, Stages.observed, Stages.shell, written]⟩
      | error cause =>
          exact ⟨_, _, _, .undelivered written, by
            simp [Stages.answer, Stages.observed, Stages.shell, written]⟩

/-- What is observed of a line, with its answer and the world after it. -/
theorem executeLine_observed
    (launcher : Launcher) (world : World) (line : Text) :
    (Stages.shell launcher).observed.execute (⟨world, none⟩, []) line =
      ((executeLine launcher world line).1,
        ⟨(executeLine launcher world line).2, none⟩,
        eventsOf launcher world line) := by
  rcases (Stages.shell launcher).execute_observed ⟨world, none⟩ [] line with
    ⟨later, watched⟩
  rw [eventsOf, watched, Stages.execute_shell]

section Cases

variable {world : World} {line : Text} (launcher : Launcher)

theorem executeLine_of_endsInOperator
    {operator : Word}
    (ends : Command.EndsInOperator (splitWords line) operator) :
    executeLine launcher world line =
        (.error (.missingRedirectTarget operator.text), world) ∧
      eventsOf launcher world line = [] := by
  have failed := Command.ofLine_of_endsInOperator ends
  constructor
  · rw [executeLine, failed]
  · rw [eventsOf, Stages.execute, failed]

theorem executeLine_of_blank (none : splitWords line = []) :
    executeLine launcher world line = (.ok (.exit 0), world) ∧
      eventsOf launcher world line = [] := by
  have parsed : Command.ofLine line = .ok .blank := by
    rw [Command.ofLine, none]
    rfl
  constructor
  · rw [executeLine, parsed]
    rfl
  · rw [eventsOf, Stages.execute, parsed]
    rfl

theorem executeLine_of_unopenable
    {redirection : Redirection} {cause : SystemError}
    (unopenable : world.Unopenable line redirection cause) :
    executeLine launcher world line =
        (.error (.redirect redirection.target cause), world) ∧
      eventsOf launcher world line =
        [.opened ⟨world, none⟩ redirection
          (.error (.redirect redirection.target cause))
          ⟨world, none⟩] := by
  rcases unopenable with ⟨⟨arguments, _⟩, parsed, rfl, failed⟩
  have refused :
      world.openDelivery (some redirection) =
        .error (.redirect redirection.target cause) := by
    simp only [World.openDelivery, failed]
  have present :
      Command.isBlank ⟨arguments, some redirection⟩ = false := by
    simp [Command.isBlank, Command.blank]
  constructor
  · simp [executeLine, parsed, Command.execute, present, refused]
  · simp [eventsOf, Stages.execute, parsed, present, Stages.openFor,
      Stages.observed, Stages.shell, refused]

/-- A command whose target is open, if it has one, is run once, in the world in which the target is
open, and then answered. -/
theorem executeLine_of_opened
    {command : Command} {opened : Delivery}
    (parsed : Command.ofLine line = .ok command)
    (present : splitWords line ≠ [])
    (found : world.openDelivery command.redirection = .ok opened) :
    ∃ openings action ran sendings,
      Opening world command.redirection opened openings ∧
        dispatch launcher opened.world command.arguments = (action, ran) ∧
        Answering { opened with world := ran } action
          (executeLine launcher world line).1
          (executeLine launcher world line).2 sendings ∧
        eventsOf launcher world line =
          openings ++
            .ran opened command.arguments action
                { opened with world := ran } ::
              sendings := by
  have visible : ¬ command.isBlank = true := by
    rwa [Command.isBlank_iff_splitWords_eq_nil parsed]
  rcases world.exists_opening found launcher [] with
    ⟨openings, opening, watchedOpening⟩
  rcases dispatched : dispatch launcher opened.world command.arguments with
    ⟨action, ran⟩
  have watchedRun :
      (Stages.shell launcher).observed.run (opened, openings)
          command.arguments =
        (action, { opened with world := ran },
          openings ++ [.ran opened command.arguments action
            { opened with world := ran }]) := by
    simp [Stages.observed, Stages.shell, dispatched]
  rcases Delivery.exists_answering launcher { opened with world := ran }
      action
      (openings ++ [.ran opened command.arguments action
        { opened with world := ran }]) with
    ⟨result, after, sendings, answering, watchedAnswer⟩
  have watched := executeLine_observed launcher world line
  rw [Stages.execute, parsed] at watched
  simp only [if_neg visible, watchedOpening, List.nil_append, watchedRun]
    at watched
  rw [watchedAnswer] at watched
  simp only [Prod.mk.injEq, Delivery.mk.injEq, and_true] at watched
  rcases watched with ⟨sameResult, sameWorld, sameEvents⟩
  refine ⟨openings, action, ran, sendings, opening, rfl, ?_, ?_⟩
  · rw [← sameResult, ← sameWorld]
    exact answering
  · rw [← sameEvents, List.append_assoc, List.singleton_append]

/-- A command that ends the session changes nothing. -/
theorem dispatch_eq_of_forall_ne_output
    {arguments : List Text} {action : Action} {after : World}
    (dispatched : dispatch launcher world arguments = (action, after))
    (ends : ∀ output, action ≠ .output output) :
    after = world := by
  rw [dispatch] at dispatched
  cases asked : world.taskFor arguments with
  | nothing =>
      rw [asked] at dispatched
      cases dispatched
      rfl
  | endSession =>
      rw [asked] at dispatched
      cases dispatched
      rfl
  | notFound name =>
      rw [asked] at dispatched
      cases dispatched
      rfl
  | builtin command rest =>
      rw [asked] at dispatched
      cases command with
      | cd =>
          cases dispatched
          exact absurd rfl (ends _)
      | exit | echo | type | pwd =>
          cases dispatched
          rfl
  | launch started =>
      rw [asked] at dispatched
      cases dispatched
      exact absurd rfl (ends _)

theorem Answering.of_exit
    {ran : Delivery} {action : Action} {code : Int} {after : World}
    {sendings : List (Event Delivery)}
    (answering : Answering ran action (.ok (.exit code)) after sendings) :
    (∀ output, action ≠ .output output) ∧ after = ran.close ∧
      sendings = [] := by
  cases answering with
  | exited => exact ⟨by simp, rfl, rfl⟩
  | ended => exact ⟨by simp, rfl, rfl⟩

/-- A line that exits through a redirection has opened the target and done nothing else. -/
theorem executeLine_of_redirected_exit
    {command : Command} {redirection : Redirection} {code : Int}
    (parsed : Command.ofLine line = .ok command)
    (redirected : command.redirection = some redirection)
    (exits : (executeLine launcher world line).1 = .ok (.exit code)) :
    ∃ handle files opened action,
      world.files.openForWriting world.directory redirection.target
            redirection.mode =
          .ok (handle, files) ∧
        FileSystem.Opens redirection.mode world.files handle files ∧
        (executeLine launcher world line).2 =
          { world with files := files, busy := [] } ∧
        eventsOf launcher world line =
          [.opened ⟨world, none⟩ redirection (.ok ()) opened,
            .ran opened command.arguments action opened] := by
  have present : splitWords line ≠ [] := by
    apply Command.splitWords_ne_nil_of_ne_blank parsed
    rintro rfl
    cases redirected
  rcases found : world.openDelivery command.redirection with error | opened
  · rw [redirected, World.openDelivery] at found
    split at found
    · rename_i cause failed
      have refused :=
        (executeLine_of_unopenable launcher
          ⟨command, parsed, redirected, failed⟩).1
      rw [refused] at exits
      cases exits
    · cases found
  · rcases executeLine_of_opened launcher parsed present found with
      ⟨openings, action, ran, sendings, opening, dispatched, answering,
        events⟩
    rw [exits] at answering
    rcases answering.of_exit with ⟨ends, closed, silent⟩
    have still := dispatch_eq_of_forall_ne_output launcher dispatched ends
    rw [redirected] at opening
    cases opening with
    | target walked holds =>
        rename_i handle files
        refine
          ⟨handle, files, opened, action, walked,
            FileSystem.opens_of_openForWriting walked, ?_, ?_⟩
        · rw [closed, still, holds]
          rfl
        · rw [events, silent, still]
          rfl

end Cases

/-- A line takes effect in stages, and a stage that fails is the last. -/
structure Staged (launcher : Launcher) (world : World) (line : Text) :
    Prop where
  /-- An operator without a target: nothing takes place. -/
  missingTarget :
    ∀ operator, Command.EndsInOperator (splitWords line) operator →
      executeLine launcher world line =
          (.error (.missingRedirectTarget operator.text), world) ∧
        eventsOf launcher world line = []
  /-- A target that cannot be opened: nothing but the attempt takes place. -/
  unopenable :
    ∀ redirection cause, world.Unopenable line redirection cause →
      executeLine launcher world line =
          (.error (.redirect redirection.target cause), world) ∧
        eventsOf launcher world line =
          [.opened ⟨world, none⟩ redirection
            (.error (.redirect redirection.target cause))
            ⟨world, none⟩]
  /-- A line without words: nothing takes place. -/
  blank :
    splitWords line = [] →
      executeLine launcher world line = (.ok (.exit 0), world) ∧
        eventsOf launcher world line = []
  /-- A redirected exit: the target is opened, and nothing is delivered. -/
  exited :
    ∀ command redirection code,
      Command.ofLine line = .ok command →
      command.redirection = some redirection →
      (executeLine launcher world line).1 = .ok (.exit code) →
      ∃ handle files opened action,
        world.files.openForWriting world.directory redirection.target
              redirection.mode =
            .ok (handle, files) ∧
          FileSystem.Opens redirection.mode world.files handle files ∧
          (executeLine launcher world line).2 =
            { world with files := files, busy := [] } ∧
          eventsOf launcher world line =
            [.opened ⟨world, none⟩ redirection (.ok ()) opened,
              .ran opened command.arguments action opened]
  /-- Everything else: the command is run once, behind the opening of its target. -/
  ran :
    (∀ operator, ¬ Command.EndsInOperator (splitWords line) operator) →
    (∀ redirection cause, ¬ world.Unopenable line redirection cause) →
    splitWords line ≠ [] →
      ∃ command opened openings action ran sendings,
        Command.ofLine line = .ok command ∧
          Opening world command.redirection opened openings ∧
          dispatch launcher opened.world command.arguments =
            (action, ran) ∧
          Answering { opened with world := ran } action
            (executeLine launcher world line).1
            (executeLine launcher world line).2 sendings ∧
          eventsOf launcher world line =
            openings ++
              .ran opened command.arguments action
                  { opened with world := ran } ::
                sendings

theorem executeLine_staged
    (launcher : Launcher) (world : World) (line : Text) :
    Staged launcher world line := by
  refine ⟨?_, ?_, ?_, ?_, ?_⟩
  · intro operator ends
    exact executeLine_of_endsInOperator launcher ends
  · intro redirection cause unopenable
    exact executeLine_of_unopenable launcher unopenable
  · intro none
    exact executeLine_of_blank launcher none
  · intro command redirection code parsed redirected exits
    exact executeLine_of_redirected_exit launcher parsed redirected exits
  · intro complete openable present
    cases parsed : Command.ofLine line with
    | error error =>
        rcases Command.exists_endsInOperator parsed with ⟨operator, ends⟩
        exact absurd ends (complete operator)
    | ok command =>
        rcases found : world.openDelivery command.redirection with
          error | opened
        · exfalso
          rcases redirected : command.redirection with _ | redirection
          · rw [redirected] at found
            cases found
          · rw [redirected, World.openDelivery] at found
            split at found
            · rename_i cause failed
              exact openable redirection cause
                ⟨command, parsed, redirected, failed⟩
            · cases found
        · rcases executeLine_of_opened launcher parsed present found with
            ⟨openings, action, ran, sendings, stages⟩
          exact
            ⟨command, opened, openings, action, ran, sendings, rfl, stages⟩

/-- A world with one file, which holds a line. -/
def World.withLog : World :=
  .initial
    ⟨#[.directory ⟨[], 0, [("log".toList, 1)], false, true⟩,
      .file newFileMode (Text.encode "kept\n".toList)]⟩

theorem executeLine_staged_cd (launcher : Launcher) :
    World.withLog.Unopenable "cd / > log/out".toList
        ⟨.stdout, .truncate, "log/out".toList⟩ .notDirectory ∧
      executeLine launcher .withLog "cd / > log/out".toList =
        (.error (.redirect "log/out".toList .notDirectory), .withLog) := by
  have unopenable :
      World.withLog.Unopenable "cd / > log/out".toList
        ⟨.stdout, .truncate, "log/out".toList⟩ .notDirectory :=
    ⟨⟨["cd".toList, "/".toList],
        some ⟨.stdout, .truncate, "log/out".toList⟩⟩,
      rfl, rfl, rfl⟩
  exact
    ⟨unopenable,
      ((executeLine_staged launcher .withLog
        "cd / > log/out".toList).unopenable _ _ unopenable).1⟩

/-- An exit that is redirected to the end of a file neither makes the file nor empties it. -/
theorem not_redirected_exit_makes_or_empties :
    ¬ ∀ (launcher : Launcher) (world : World) (line : Text)
        (command : Command) (redirection : Redirection) (code : Int)
        (handle : Handle) (files : FileSystem),
      Command.ofLine line = .ok command →
      command.redirection = some redirection →
      (executeLine launcher world line).1 = .ok (.exit code) →
      world.files.openForWriting world.directory redirection.target
          redirection.mode =
        .ok (handle, files) →
      world.files.node? handle.node = none ∨
        (executeLine launcher world line).2.files.content? handle.node =
          some [] := by
  intro claimed
  have refuted :=
    claimed (fun world _ => (.ok .none, world.files)) .withLog
      "exit >> log".toList
      ⟨["exit".toList], some ⟨.stdout, .append, "log".toList⟩⟩
      ⟨.stdout, .append, "log".toList⟩ 0 ⟨1, none⟩ World.withLog.files
      rfl rfl rfl rfl
  revert refuted
  decide +kernel

end InteractiveShell
