import InteractiveShell.FileSystem.Tree
import InteractiveShell.Proofs.Editor.Submission
import InteractiveShell.Proofs.Execution.Frame
import Mathlib

/-!
# The course of a session

A session takes turns.  In each turn it reads a line by one edit cycle over what the turns before
it left unread, and does what the cycle's outcome asks for: it shows the line again behind a
listing, executes the line that was submitted, or ends.  `Turn.Leads` and `Turn.Ends` say what one
turn can do, and `Course` is a run of turns from the first to the one that ends the session.

Over a stream without failures, and with a terminal that takes what is written to it, every session
has a course.  It has at most two turns more than the stream has bytes: a turn that ends on a key
reads a byte, and the end of the input can be met by two turns only, of which the first submits what
is left in the buffer.  There is no other course from the same turn (`Course.unique`).
-/

namespace InteractiveShell

/-- Where a session stands when it starts to read a line. -/
structure Turn where
  seed : Text
  world : World
  arrivals : List Arrival

/-- A line that was executed, and what came of it. -/
structure Execution where
  line : Text
  result : Except ShellError Flow

/-- The code with which an execution ends the session, if it does. -/
def Execution.exitCode? (execution : Execution) : Option Int :=
  match execution.result with
  | .ok (.exit code) => some code
  | _ => none

namespace Turn

/-- The cycle that reads the line of a turn. -/
def cycle (turn : Turn) (settings : Settings) : CycleEnd World :=
  runCycle (turn.world.candidates settings.names) (World.outlet .stdout)
    turn.seed turn.world turn.arrivals

variable (settings : Settings) (launcher : Launcher)

/-- What a turn does that another turn follows: the lines that it executes, and the next turn. -/
inductive Leads (turn : Turn) : List Execution → Turn → Prop where
  | listed {buffer : Text} {shown : World}
      (ended : (turn.cycle settings).result = .ok (.listed buffer))
      (redrawn :
        (turn.cycle settings).output.print
            (newLine ++ settings.prompt ++ buffer) =
          (.ok (), shown)) :
      Leads turn [] ⟨buffer, shown, (turn.cycle settings).unread⟩
  | proceeded {line : Text} {after shown : World}
      (ended : (turn.cycle settings).result = .ok (.submitted line))
      (executed :
        executeLine launcher (turn.cycle settings).output line =
          (.ok .proceed, after))
      (prompted :
        after.print (Key.carriageReturn :: settings.prompt) =
          (.ok (), shown)) :
      Leads turn [⟨line, .ok .proceed⟩]
        ⟨[], shown, (turn.cycle settings).unread⟩
  | failed {line : Text} {error : ShellError} {after shown : World}
      (ended : (turn.cycle settings).result = .ok (.submitted line))
      (executed :
        executeLine launcher (turn.cycle settings).output line =
          (.error error, after))
      (prompted :
        World.print
            { after with
              transcript :=
                (.stderr, Text.encode (error.message ++ ['\n'])) ::
                  after.transcript }
            (Key.carriageReturn :: settings.prompt) =
          (.ok (), shown)) :
      Leads turn [⟨line, .error error⟩]
        ⟨[], shown, (turn.cycle settings).unread⟩

/-- What a turn does that ends the session: the lines that it executes, the code and the world. -/
inductive Ends (turn : Turn) : List Execution → Int → World → Prop where
  | exited {line : Text} {code : Int} {after : World}
      (ended : (turn.cycle settings).result = .ok (.submitted line))
      (executed :
        executeLine launcher (turn.cycle settings).output line =
          (.ok (.exit code), after)) :
      Ends turn [⟨line, .ok (.exit code)⟩] code after
  | interrupted
      (ended : (turn.cycle settings).result = .ok .interrupted) :
      Ends turn [] 0 (turn.cycle settings).output
  | inputEnded
      (ended : (turn.cycle settings).result = .ok .endOfInput) :
      Ends turn [] 0 (turn.cycle settings).output

end Turn

/-- A run of turns to the one that ends the session, with the lines that they execute. -/
inductive Course (settings : Settings) (launcher : Launcher) :
    Turn → List Turn → List Execution → Int → World → Prop where
  | last {turn : Turn} {executions : List Execution} {code : Int}
      {final : World}
      (ends : turn.Ends settings launcher executions code final) :
      Course settings launcher turn [turn] executions code final
  | next {turn following : Turn} {turns : List Turn}
      {executions later : List Execution} {code : Int} {final : World}
      (leads : turn.Leads settings launcher executions following)
      (others :
        Course settings launcher following turns later code final) :
      Course settings launcher turn (turn :: turns) (executions ++ later)
        code final

/-! ### A terminal that takes what is written -/

/-- Standard output takes what is written to it. -/
def World.TakesOutput (world : World) : Prop :=
  world.output ≠ .device .full

theorem World.steady_stdout :
    (World.outlet .stdout).Steady World.TakesOutput := by
  intro world bytes takes nonempty
  cases bytes with
  | nil => exact absurd rfl nonempty
  | cons first rest =>
      cases connection : world.output with
      | terminal =>
          exact
            ⟨rest.length, world.record .stdout (first :: rest),
              by simp [World.outlet, connection], takes⟩
      | device device =>
          cases device with
          | null =>
              exact
                ⟨rest.length, world,
                  by simp [World.outlet, connection, Device.accept,
                    Except.map],
                  takes⟩
          | full => exact absurd connection takes

theorem World.stdout_keeps :
    (World.outlet .stdout).Keeps World.TakesOutput := by
  intro world bytes taken after takes written
  rcases World.outlet_frame written with ⟨transcript, same⟩
  rw [same]
  exact takes

theorem World.TakesOutput.print_ok
    {world : World} (takes : world.TakesOutput) (text : Text) :
    ∃ after, world.print text = (.ok (), after) ∧ after.TakesOutput :=
  World.steady_stdout.writeAll_ok takes text.encode

theorem World.TakesOutput.executeLine
    {world : World} (takes : world.TakesOutput) (launcher : Launcher)
    (line : Text) :
    (executeLine launcher world line).2.TakesOutput := by
  rw [World.TakesOutput, (executeLine_sameTerms launcher world line).2]
  exact takes

/-! ### One turn of a session -/

section Turns

variable {settings : Settings} {launcher : Launcher} {turn : Turn}

/-- The rest of a session from a turn, by what becomes of the turn's cycle. -/
theorem Turn.converse_eq (turn : Turn) :
    converse settings launcher turn.seed turn.world turn.arrivals =
      match (turn.cycle settings).result with
      | .error cause =>
          ⟨.error (.reading cause), (turn.cycle settings).output⟩
      | .ok (.listed buffer) =>
          match (turn.cycle settings).output.print
              (newLine ++ settings.prompt ++ buffer) with
          | (.error cause, after) => ⟨.error (.prompting cause), after⟩
          | (.ok (), after) =>
              converse settings launcher buffer after
                (turn.cycle settings).unread
      | .ok (.submitted line) =>
          match settle launcher (turn.cycle settings).output line with
          | (some code, after) => ⟨.ok code, after⟩
          | (none, after) =>
              match after.print
                  (Key.carriageReturn :: settings.prompt) with
              | (.error cause, after) => ⟨.error (.prompting cause), after⟩
              | (.ok (), after) =>
                  converse settings launcher [] after
                    (turn.cycle settings).unread
      | .ok .interrupted | .ok .endOfInput =>
          ⟨.ok 0, (turn.cycle settings).output⟩ := by
  rw [converse]
  split
  · rename_i cause unread after ran
    simp only [Turn.cycle, ran]
  · rename_i unread after ran
    simp only [Turn.cycle, ran]
  · rename_i unread after ran
    simp only [Turn.cycle, ran]
  · rename_i buffer unread after ran
    rcases redrawn :
        after.print (newLine ++ settings.prompt ++ buffer) with
      ⟨cause | _, shown⟩ <;>
      simp only [Turn.cycle, ran, redrawn]
  · rename_i line unread after ran
    rcases executed : settle launcher after line with ⟨_ | code, settled⟩
    · rcases prompted :
          settled.print (Key.carriageReturn :: settings.prompt) with
        ⟨cause | _, shown⟩ <;>
        simp only [Turn.cycle, ran, executed, prompted]
    · simp only [Turn.cycle, ran, executed]

theorem Turn.Ends.converse_eq
    {executions : List Execution} {code : Int} {final : World}
    (ends : turn.Ends settings launcher executions code final) :
    converse settings launcher turn.seed turn.world turn.arrivals =
      ⟨.ok code, final⟩ := by
  cases ends with
  | exited ended executed =>
      rw [turn.converse_eq, ended]
      simp only [settle, executed]
  | interrupted ended => rw [turn.converse_eq, ended]
  | inputEnded ended => rw [turn.converse_eq, ended]

theorem Turn.Leads.converse_eq
    {executions : List Execution} {following : Turn}
    (leads : turn.Leads settings launcher executions following) :
    converse settings launcher turn.seed turn.world turn.arrivals =
      converse settings launcher following.seed following.world
        following.arrivals := by
  cases leads with
  | listed ended redrawn =>
      rw [turn.converse_eq, ended]
      simp only [redrawn]
  | proceeded ended executed prompted =>
      rw [turn.converse_eq, ended]
      simp only [settle, executed, prompted]
  | failed ended executed prompted =>
      rw [turn.converse_eq, ended]
      simp only [settle, executed, World.report, World.record, prompted]

/-- A course ends a session as the session ends. -/
theorem Course.converse_eq
    {turns : List Turn} {executions : List Execution} {code : Int}
    {final : World}
    (course : Course settings launcher turn turns executions code final) :
    converse settings launcher turn.seed turn.world turn.arrivals =
      ⟨.ok code, final⟩ := by
  induction course with
  | last ends => exact ends.converse_eq
  | next leads _ ih => rw [leads.converse_eq, ih]

/-! ### One course only -/

theorem Turn.Leads.unique
    {executions others : List Execution} {following other : Turn}
    (leads : turn.Leads settings launcher executions following)
    (again : turn.Leads settings launcher others other) :
    others = executions ∧ other = following := by
  cases leads with
  | listed ended redrawn => cases again <;> simp_all
  | proceeded ended executed prompted => cases again <;> simp_all
  | failed ended executed prompted => cases again <;> simp_all

theorem Turn.Ends.unique
    {executions others : List Execution} {code other : Int}
    {final world : World}
    (ends : turn.Ends settings launcher executions code final)
    (again : turn.Ends settings launcher others other world) :
    others = executions ∧ other = code ∧ world = final := by
  cases ends with
  | exited ended executed => cases again <;> simp_all
  | interrupted ended => cases again <;> simp_all
  | inputEnded ended => cases again <;> simp_all

theorem Turn.Leads.not_ends
    {executions others : List Execution} {following : Turn} {code : Int}
    {final : World}
    (leads : turn.Leads settings launcher executions following) :
    ¬ turn.Ends settings launcher others code final := by
  intro ends
  cases leads with
  | listed ended redrawn => cases ends <;> simp_all
  | proceeded ended executed prompted => cases ends <;> simp_all
  | failed ended executed prompted => cases ends <;> simp_all

/-- The first turn decides the whole course. -/
theorem Course.unique
    {turns others : List Turn} {executions executed : List Execution}
    {code other : Int} {final world : World}
    (course :
      Course settings launcher turn turns executions code final)
    (again : Course settings launcher turn others executed other world) :
    others = turns ∧ executed = executions ∧ other = code ∧
      world = final := by
  induction course generalizing others executed with
  | last ends =>
      cases again with
      | last endsAgain =>
          rcases ends.unique endsAgain with ⟨rfl, rfl, rfl⟩
          exact ⟨rfl, rfl, rfl, rfl⟩
      | next leads _ => exact absurd ends leads.not_ends
  | next leads _ ih =>
      cases again with
      | last ends => exact absurd ends leads.not_ends
      | next leadsAgain later =>
          rcases leads.unique leadsAgain with ⟨rfl, rfl⟩
          rcases ih later with ⟨rfl, rfl, rfl, rfl⟩
          exact ⟨rfl, rfl, rfl, rfl⟩

/-! ### What a course executes -/

theorem Turn.Leads.map_line_eq
    {executions : List Execution} {following : Turn}
    (leads : turn.Leads settings launcher executions following) :
    executions.map Execution.line =
      (turn.cycle settings).submitted?.toList := by
  cases leads with
  | listed ended => simp [CycleEnd.submitted?, ended]
  | proceeded ended => simp [CycleEnd.submitted?, ended]
  | failed ended => simp [CycleEnd.submitted?, ended]

theorem Turn.Leads.exitCode?_eq_none
    {executions : List Execution} {following : Turn}
    (leads : turn.Leads settings launcher executions following) :
    ∀ execution ∈ executions, execution.exitCode? = none := by
  cases leads <;> simp [Execution.exitCode?]

theorem Turn.Ends.map_line_eq
    {executions : List Execution} {code : Int} {final : World}
    (ends : turn.Ends settings launcher executions code final) :
    executions.map Execution.line =
      (turn.cycle settings).submitted?.toList := by
  cases ends with
  | exited ended => simp [CycleEnd.submitted?, ended]
  | interrupted ended => simp [CycleEnd.submitted?, ended]
  | inputEnded ended => simp [CycleEnd.submitted?, ended]

/-- A course executes the lines that its cycles submit, in their order, each once. -/
theorem Course.map_line_eq
    {turns : List Turn} {executions : List Execution} {code : Int}
    {final : World}
    (course : Course settings launcher turn turns executions code final) :
    executions.map Execution.line =
      turns.filterMap fun each => (each.cycle settings).submitted? := by
  induction course with
  | last ends =>
      rw [ends.map_line_eq, List.filterMap_cons, List.filterMap_nil]
      split <;> simp_all
  | next leads _ ih =>
      rw [List.map_append, leads.map_line_eq, ih, List.filterMap_cons]
      split <;> simp_all

/-- Nothing is executed behind a line that ends the session. -/
theorem Course.exitCode?_eq_none
    {turns : List Turn} {executions : List Execution} {code : Int}
    {final : World}
    (course : Course settings launcher turn turns executions code final) :
    ∀ execution ∈ executions.dropLast, execution.exitCode? = none := by
  induction course with
  | last ends => cases ends <;> simp
  | next leads _ ih =>
      rename_i executions later _ _ _
      intro execution member
      by_cases nothing : later = []
      · rw [nothing, List.append_nil] at member
        exact
          leads.exitCode?_eq_none execution
            ((List.dropLast_sublist executions).subset member)
      · rw [List.dropLast_append_of_ne_nil nothing] at member
        rcases List.mem_append.mp member with here | behind
        · exact leads.exitCode?_eq_none execution here
        · exact ih execution behind

/-- A course ends with the code of the line that ends the session, or else with zero. -/
theorem Course.code_eq
    {turns : List Turn} {executions : List Execution} {code : Int}
    {final : World}
    (course : Course settings launcher turn turns executions code final) :
    code = (executions.findSome? Execution.exitCode?).getD 0 := by
  induction course with
  | last ends => cases ends <;> simp [Execution.exitCode?]
  | next leads _ ih =>
      have nothing := List.findSome?_eq_none_iff.mpr leads.exitCode?_eq_none
      rw [List.findSome?_append, nothing, Option.none_or]
      exact ih

/-- Without a line that ends the session, the last cycle meets an interruption or the end. -/
theorem Course.exists_last
    {turns : List Turn} {executions : List Execution} {code : Int}
    {final : World}
    (course : Course settings launcher turn turns executions code final)
    (going : executions.findSome? Execution.exitCode? = none) :
    ∃ last, turns.getLast? = some last ∧
      ((last.cycle settings).result = .ok .interrupted ∨
        (last.cycle settings).result = .ok .endOfInput) := by
  induction course with
  | @last turn _ _ _ ends =>
      refine ⟨turn, rfl, ?_⟩
      cases ends with
      | exited ended executed => simp [Execution.exitCode?] at going
      | interrupted ended => exact .inl ended
      | inputEnded ended => exact .inr ended
  | next leads others ih =>
      have nothing := List.findSome?_eq_none_iff.mpr leads.exitCode?_eq_none
      rw [List.findSome?_append, nothing, Option.none_or] at going
      rcases ih going with ⟨last, found, ended⟩
      refine ⟨last, ?_, ended⟩
      rw [List.getLast?_cons, found, Option.getD_some]

/-! ### Every session has a course -/

/-- A turn ends the session, or leads to another one. -/
theorem Turn.ends_or_leads
    (settings : Settings) (launcher : Launcher) {turn : Turn}
    (takes : turn.world.TakesOutput)
    (unfailing : ∀ cause, .failure cause ∉ turn.arrivals) :
    (∃ executions code final,
        turn.Ends settings launcher executions code final) ∨
      ∃ executions following,
        turn.Leads settings launcher executions following ∧
          following.world.TakesOutput ∧
          following.arrivals = (turn.cycle settings).unread := by
  have well : ∃ outcome, (turn.cycle settings).result = .ok outcome :=
    World.steady_stdout.runEdit_ok takes _ _ _ unfailing
  have left : (turn.cycle settings).output.TakesOutput :=
    World.stdout_keeps.runCycle takes _ _ _
  rcases well with ⟨outcome, ended⟩
  cases outcome with
  | interrupted => exact .inl ⟨_, _, _, .interrupted ended⟩
  | endOfInput => exact .inl ⟨_, _, _, .inputEnded ended⟩
  | listed buffer =>
      rcases left.print_ok (newLine ++ settings.prompt ++ buffer) with
        ⟨shown, redrawn, continues⟩
      exact .inr ⟨_, _, .listed ended redrawn, continues, rfl⟩
  | submitted line =>
      have kept := left.executeLine launcher line
      rcases executed :
          InteractiveShell.executeLine launcher (turn.cycle settings).output
            line with
        ⟨result, after⟩
      rw [executed] at kept
      cases result with
      | error error =>
          have reported : World.TakesOutput
              { after with
                transcript :=
                  (.stderr, Text.encode (error.message ++ ['\n'])) ::
                    after.transcript } :=
            kept
          rcases reported.print_ok
              (Key.carriageReturn :: settings.prompt) with
            ⟨shown, prompted, continues⟩
          exact
            .inr ⟨_, _, .failed ended executed prompted, continues, rfl⟩
      | ok flow =>
          cases flow with
          | exit code => exact .inl ⟨_, _, _, .exited ended executed⟩
          | proceed =>
              rcases World.TakesOutput.print_ok kept
                  (Key.carriageReturn :: settings.prompt) with
                ⟨shown, prompted, continues⟩
              exact
                .inr
                  ⟨_, _, .proceeded ended executed prompted, continues, rfl⟩

theorem Turn.Leads.exists_outcome
    {executions : List Execution} {following : Turn}
    (leads : turn.Leads settings launcher executions following) :
    ∃ outcome,
      (turn.cycle settings).result = .ok outcome ∧
        outcome.nextSeed? = some following.seed ∧
        following.arrivals = (turn.cycle settings).unread := by
  cases leads with
  | listed ended => exact ⟨_, ended, rfl, rfl⟩
  | proceeded ended => exact ⟨_, ended, rfl, rfl⟩
  | failed ended => exact ⟨_, ended, rfl, rfl⟩

theorem Edit.nextSeed?_close
    {edit : Edit} {next : Text}
    (follows : edit.close.1.nextSeed? = some next) :
    next = [] := by
  unfold close at follows
  split at follows
  · cases follows
  · cases follows
    rfl

/-- A turn that another one follows reads a byte, or leaves it nothing at all. -/
theorem Turn.Leads.reads
    {executions : List Execution} {following : Turn}
    (leads : turn.Leads settings launcher executions following) :
    (Arrival.bytes following.arrivals).length <
        (Arrival.bytes turn.arrivals).length ∨
      (following.seed = [] ∧ following.arrivals = []) := by
  rcases leads.exists_outcome with ⟨outcome, ended, follows, left⟩
  rcases runEdit_ends rfl ended with
    ⟨read, divided, _, ends, _⟩ | ⟨nothing, ends⟩
  · refine .inl ?_
    rcases ends with ⟨earlier, key, _, _, keys, _⟩
    have some : Arrival.bytes read ≠ [] := by
      intro none
      rw [none, Utf8.Decoder.feedAll_nil] at keys
      simp at keys
    have positive := List.length_pos_iff.mpr some
    have whole := congrArg (fun all => (Arrival.bytes all).length) divided
    rw [Arrival.bytes_append, List.length_append] at whole
    rw [left, cycle, runCycle]
    omega
  · refine .inr ⟨?_, left.trans nothing⟩
    rcases ends with ⟨last, between, _, closes⟩
    have closed : outcome = last.close.1 :=
      eq_of_conclude_eq_ok ((congrArg Prod.fst closes).trans ended)
    rw [closed] at follows
    exact Edit.nextSeed?_close follows

/-- Without a seed and without input, a turn ends the session. -/
theorem Turn.ends_of_nothing
    (settings : Settings) (launcher : Launcher) {turn : Turn}
    (unseeded : turn.seed = []) (nothing : turn.arrivals = []) :
    turn.Ends settings launcher [] 0 (turn.cycle settings).output := by
  refine .inputEnded ?_
  rw [cycle, unseeded, nothing, runCycle, runEdit, Utf8.Decoder.finish,
    Edit.pressAll_nil]
  simp [Edit.close, Edit.start, Outcome.conclude, Outlet.writeAll,
    Except.map]

/-- A session over a stream without failures has a course, and its turns are few. -/
theorem Turn.exists_course
    (settings : Settings) (launcher : Launcher) (turn : Turn)
    (takes : turn.world.TakesOutput)
    (unfailing : ∀ cause, .failure cause ∉ turn.arrivals) :
    ∃ turns executions code final,
      Course settings launcher turn turns executions code final ∧
        turns.length ≤ (Arrival.bytes turn.arrivals).length + 2 := by
  induction size : (Arrival.bytes turn.arrivals).length
    using Nat.strongRecOn generalizing turn with
  | ind size ih =>
      rcases turn.ends_or_leads settings launcher takes unfailing with
        ⟨executions, code, final, ends⟩ |
          ⟨executions, following, leads, continues, unread⟩
      · exact ⟨[turn], executions, code, final, .last ends, by simp⟩
      · rcases leads.reads with fewer | ⟨unseeded, nothing⟩
        · have later : ∀ cause, .failure cause ∉ following.arrivals := by
            rw [unread]
            exact Arrival.unfailing_unread unfailing _ _ _ _
          rcases ih _ (size ▸ fewer) following continues later rfl with
            ⟨turns, others, code, final, course, few⟩
          refine
            ⟨turn :: turns, executions ++ others, code, final,
              .next leads course, ?_⟩
          rw [List.length_cons]
          omega
        · have ends :=
            following.ends_of_nothing settings launcher unseeded nothing
          exact
            ⟨[turn, following], executions ++ [], 0, _,
              .next leads (.last ends), by simp⟩

end Turns

/--
The law of a session.  It prompts and takes a course over the whole stream, in
at most two turns more than there are bytes.  It executes the lines that the
cycles of its turns submit, in their order, and nothing behind the first one
that ends the session.  It ends well, with the code of that line, or with zero
when a cycle is interrupted or meets the end of the input first.
-/
theorem runSession_course
    (settings : Settings) (launcher : Launcher) {world : World}
    {arrivals : List Arrival}
    (takes : world.TakesOutput)
    (unfailing : ∀ cause, .failure cause ∉ arrivals) :
    ∃ prompted turns executions code final,
      world.print (Key.carriageReturn :: settings.prompt) =
          (.ok (), prompted) ∧
        Course settings launcher ⟨[], prompted, arrivals⟩ turns executions
          code final ∧
        runSession settings launcher world arrivals = ⟨.ok code, final⟩ ∧
        turns.length ≤ (Arrival.bytes arrivals).length + 2 ∧
        (executions.map Execution.line =
          turns.filterMap fun turn => (turn.cycle settings).submitted?) ∧
        (∀ execution ∈ executions.dropLast,
          execution.exitCode? = none) ∧
        code = (executions.findSome? Execution.exitCode?).getD 0 ∧
        (executions.findSome? Execution.exitCode? = none →
          ∃ last, turns.getLast? = some last ∧
            ((last.cycle settings).result = .ok .interrupted ∨
              (last.cycle settings).result = .ok .endOfInput)) := by
  rcases takes.print_ok (Key.carriageReturn :: settings.prompt) with
    ⟨prompted, shown, begins⟩
  rcases
      Turn.exists_course settings launcher ⟨[], prompted, arrivals⟩ begins
        unfailing with
    ⟨turns, executions, code, final, course, few⟩
  refine
    ⟨prompted, turns, executions, code, final, shown, course, ?_, few,
      course.map_line_eq, course.exitCode?_eq_none, course.code_eq,
      course.exists_last⟩
  rw [runSession, shown]
  exact course.converse_eq

/-! ### A session of three turns -/

namespace Turn

/-- A redirection without a target, a letter with two tabs behind it, an exit and one more line. -/
def beforeFailure : Turn :=
  ⟨[], ((World.initial .minimal).print "\x0d$ ".toList).2,
    (Text.encode "pwd >\ne\t\txit 3\rpwd\n".toList).map Arrival.byte⟩

/-- The turn behind the line that fails. -/
def beforeListing : Turn :=
  let reported :=
    (beforeFailure.cycle .standard).output.report
      ">: missing redirection target".toList
  ⟨[], (reported.print "\x0d$ ".toList).2,
    (beforeFailure.cycle .standard).unread⟩

/-- The turn behind the listing. -/
def beforeExit : Turn :=
  ⟨"e".toList,
    ((beforeListing.cycle .standard).output.print "\x0d\n$ e".toList).2,
    (beforeListing.cycle .standard).unread⟩

theorem beforeFailure_leads (launcher : Launcher) :
    beforeFailure.Leads .standard launcher
      [⟨"pwd >".toList, .error (.missingRedirectTarget ">".toList)⟩]
      beforeListing := by
  have ended :
      (beforeFailure.cycle .standard).result =
        .ok (.submitted "pwd >".toList) := by
    decide +kernel
  have executed :
      executeLine launcher (beforeFailure.cycle .standard).output
          "pwd >".toList =
        (.error (.missingRedirectTarget ">".toList),
          (beforeFailure.cycle .standard).output) :=
    rfl
  refine .failed ended executed ?_
  decide +kernel

theorem beforeListing_leads (launcher : Launcher) :
    beforeListing.Leads .standard launcher [] beforeExit := by
  refine .listed ?_ ?_
  · cbv
  · cbv

theorem beforeExit_ends (launcher : Launcher) :
    beforeExit.Ends .standard launcher
      [⟨"exit 3".toList, .ok (.exit 3)⟩] 3
      { (beforeExit.cycle .standard).output with busy := [] } := by
  refine .exited ?_ rfl
  cbv

end Turn

/-- A line that fails, a listing and a line that ends the session, with keys behind it. -/
theorem runSession_course_exit :
    let launcher : Launcher := fun world _ => (.ok .none, world.files)
    let world := World.initial .minimal
    let arrivals :=
      (Text.encode "pwd >\ne\t\txit 3\rpwd\n".toList).map Arrival.byte
    world.TakesOutput ∧ (∀ cause, .failure cause ∉ arrivals) ∧
      ∃ prompted turns executions code final,
        world.print "\x0d$ ".toList = (.ok (), prompted) ∧
          Course .standard launcher ⟨[], prompted, arrivals⟩ turns executions
            code final ∧
          runSession .standard launcher world arrivals =
            ⟨.ok code, final⟩ ∧
          turns.length ≤ 21 ∧ code = 3 ∧
          executions =
            [⟨"pwd >".toList, .error (.missingRedirectTarget ">".toList)⟩,
              ⟨"exit 3".toList, .ok (.exit 3)⟩] := by
  intro launcher world arrivals
  have takes : world.TakesOutput := by
    unfold World.TakesOutput
    decide
  have unfailing : ∀ cause, .failure cause ∉ arrivals := by
    intro cause member
    rcases List.mem_map.mp member with ⟨byte, _, same⟩
    cases same
  have law := runSession_course .standard launcher takes unfailing
  rcases law with
    ⟨prompted, turns, executions, code, final, shown, course, ends, few, _⟩
  have bytes : (Arrival.bytes arrivals).length = 19 := by decide
  rw [bytes] at few
  have known :=
    Course.next (Turn.beforeFailure_leads launcher)
      (.next (Turn.beforeListing_leads launcher)
        (.last (Turn.beforeExit_ends launcher)))
  have begun : prompted = Turn.beforeFailure.world :=
    congrArg Prod.snd shown.symm
  subst begun
  have same := known.unique course
  exact
    ⟨takes, unfailing, _, turns, executions, code, final, shown, course,
      ends, few, same.2.2.1, same.2.1⟩

end InteractiveShell
