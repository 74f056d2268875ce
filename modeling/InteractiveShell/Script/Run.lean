import InteractiveShell.Script.Arithmetic
import InteractiveShell.Script.Connection
import InteractiveShell.Script.Course
import InteractiveShell.Script.Reader.Grammar
import InteractiveShell.Script.Source
import InteractiveShell.Script.Tilde

/-!
# Running scripts

The evaluation of statements, with the expansions of their phrases.  `interpret` is the interpreter
of scripts as a program.

A budget bounds how deeply statements are nested and how often a loop repeats; a script that exceeds
it stops there.
-/

namespace InteractiveShell

namespace Script

/-- How many functions can be running within each other. -/
def callLimit : Nat :=
  1000

/-- How often a script that goes on at its end meets that. -/
def endLimit : Nat :=
  50

/-- What a phrase is expanded for. -/
inductive Destination where
  /-- A word of a command. -/
  | word
  /-- What stands for a parameter in a word. -/
  | operand
  /-- The value of a variable. -/
  | value
deriving DecidableEq

/-- Shows the lines on which a reader began, if lines are to be shown. -/
def Process.showLines (process : Process) (earlier later : Reader) : Process :=
  if process.has .verbose && earlier.isFile then
    (process.write? 2 (bytesOf (earlier.linesBegun later))).getD process
  else process

/-- Drops the ends of lines at the end. -/
def dropLineEnds (bytes : Bytes) : Bytes :=
  (bytes.reverse.dropWhile fun byte => byte = ascii '\n').reverse

/-- Joins the second run of segments to the first. -/
def alongside (first second : Process × List Segment) : Process × List Segment :=
  (second.1, first.2 ++ second.2)

namespace Process

/-- The value of a parameter as it is looked up for an expansion; nothing if its lack ends the
script. -/
def lookUp (process : Process) (name : Text) : Option (Option Bytes) :=
  let value := process.value? name
  let isList := name = ['@'] || name = ['*']
  if value.isNone && process.has .requireValues && !isList then none else some value

/-- The text that shows a command before it runs. -/
def traceOf (words : List Bytes) : Bytes :=
  (bytes " ").intercalate words ++ bytes "\n"

/-- Writes to the descriptor for complaints of an earlier state. -/
def complainAs (process earlier : Process) (message : Bytes) : Process :=
  let channel := earlier.channels.filter fun entry => entry.1 = 2
  let own := process.channels
  { (({ process with channels := channel }.write? 2 message).getD process) with channels := own }

end Process

mutual

/-- Runs a statement. -/
def run : Nat → Statement → Process → Process
  | 0, _, process => { process with control := .exiting, status := 2 }
  | budget + 1, statement, process =>
    if !process.isRunning || process.has .readOnly then process
    else answer budget (runAlone budget statement process)

/-- Runs a statement without a look at signals. -/
def runAlone : Nat → Statement → Process → Process
  | 0, _, process => { process with control := .exiting, status := 2 }
  | budget + 1, statement, process =>
    match statement with
    | .sequence [] => process.withStatus 0
    | .sequence statements =>
      statements.foldl (fun process statement => run budget statement process) process
    | .simple line assignments phrases redirects =>
      (runSimple budget assignments phrases redirects { process with line := line }).checkStatus
    | .negation statement => (probe budget statement process).negated
    | .both first second =>
      let after := probe budget first process
      if after.status = 0 then run budget second after else after
    | .either first second =>
      let after := probe budget first process
      if after.status ≠ 0 then run budget second after else after
    | .choice condition consequent alternative =>
      let after := probe budget condition process
      run budget (if after.status = 0 then consequent else alternative) after
    | .each line name items body =>
      let located := { process with line := line }
      let (expanded, values) :=
        match items with
        | none => (located, located.arguments)
        | some phrases => expandWords budget false phrases located
      if !expanded.isRunning then expanded
      else if values.isEmpty then expanded.withStatus 0
      else
        let (_, after) := values.foldl
          (fun (state : Bool × Process) value =>
            if state.1 then (run budget body (state.2.assign name value)).afterBody else state)
          (true, { expanded with loops := process.loops + 1 })
        { after with loops := process.loops }
    | .loop untilSuccess condition body =>
      let after := runLoop budget untilSuccess condition body 0
        { process with loops := process.loops + 1 }
      { after with loops := process.loops }
    | .selection line subject branches =>
      let (expanded, segments) := expandPhrase budget .word subject { process with line := line }
      let value := Segment.join expanded.separators segments
      let (chosen, after) := branches.foldl
        (fun (found : Option Statement × Process) branch =>
          branch.1.foldl
            (fun (found : Option Statement × Process) candidate =>
              if found.1.isSome || !found.2.isRunning then found
              else
                let (process, segments) := expandPhrase budget .word candidate found.2
                let pattern := Segment.pattern process.separators segments
                (if pattern.matches value then some branch.2 else none, process))
            found)
        (none, expanded)
      match chosen with
      | some body => run budget body after
      | none => if after.isRunning then after.withStatus 0 else after
    | .subshell line body =>
      let located := { process with line := line }
      (located.resumePart (finish budget (run budget body located.fork))).checkStatus
    | .background body =>
      let start := { process.fork with
        guarded := false
        ignored := Signal.fromKeyboard ++ process.ignored
        isLast := body.isSimple }
      let ended := finish budget (run budget body (start.connectTo 0 (.pipe [] [])))
      let after := { process with arrived := ended.arrived }.resumeBeside ended
      let (place, others) := Job.vacate after.jobs
      let number := process.latestNumber.getD ownNumber + body.size
      let job : Job := ⟨place, number, body.size, after.status, ended.signal?, false⟩
      { after with jobs := job :: others, latestNumber := some number, status := 0 }
    | .pipeline stages =>
      let (_, _, after) := stages.foldl
        (fun (state : Option Nat × Nat × Process) stage =>
          let (source?, left, earlier) := state
          let current := earlier.locateStage stage
          let forked := { current.fork with status := process.status }
          let reading :=
            match source? with
            | some number => forked.connect 0 (.opened number)
            | none => forked
          let start := if left = 0 then reading else reading.connectTo 1 (.pipe [] [])
          let ended := finish budget (run budget stage start)
          (some current.opened.length, left - 1, current.resumePart ended))
        (none, stages.length - 1, process)
      (after.closeSince process).checkStatus
    | .redirected line body redirects =>
      let (expanded, targets) := expandTargets budget redirects { process with line := line }
      if !expanded.isRunning then expanded
      else
        match connectAll budget targets expanded with
        | .error failed => (failed.afterFailure expanded).checkStatus
        | .ok connected => (run budget body connected).afterRedirects expanded redirects
    | .definition name body =>
      { process with functions := update process.functions name body, status := 0 }

/-- Runs a statement whose failure is looked at and so ends nothing. -/
def probe : Nat → Statement → Process → Process
  | 0, _, process => process
  | budget + 1, statement, process =>
    { run budget statement { process with guarded := true } with guarded := process.guarded }

/-- Runs the body of a loop as often as the condition says.  The status is that of the last body. -/
def runLoop : Nat → Bool → Statement → Statement → Nat → Process → Process
  | 0, _, _, _, _, process => { process with control := .exiting, status := 2 }
  | budget + 1, untilSuccess, condition, body, status, process =>
    let after := probe budget condition process
    if !after.isRunning then
      let (goesOn, resumed) := after.afterBody
      if goesOn then runLoop budget untilSuccess condition body status resumed
      else
        match resumed.control with
        | .running | .breaking _ | .continuing _ => resumed.withStatus status
        | _ => resumed
    else if (after.status = 0) = untilSuccess then after.withStatus status
    else
      let (goesOn, after) := (run budget body after).afterBody
      if goesOn then runLoop budget untilSuccess condition body after.status after else after

/-- Runs the answers to the signals that arrived. -/
def answer : Nat → Process → Process
  | 0, process => process
  | budget + 1, process =>
    if process.isPart || process.arrived.isEmpty then process
    else
      process.arrived.eraseDups.foldl
        (fun process signal =>
          if !process.isRunning then process
          else
            match process.answerTo? signal with
            | none => process.struck signal
            | some action =>
              let after := runText budget (textOf action) process.answering
              let isOver := after.control ≠ .running
              { after with
                guarded := process.guarded
                statusBefore := process.statusBefore
                status := if isOver then after.status else process.status })
        { process with arrived := [] }

/-- Ends a process: runs what is to be run at its end. -/
def finish : Nat → Process → Process
  | 0, process => process
  | budget + 1, process =>
    match process.control, process.trap? 0 with
    | .killed _, _ | _, none => process
    | _, some action =>
      let start := { process with
        traps := process.traps.filter fun trap => trap.1 ≠ 0
        utility := none }
      let after := runText budget (textOf action) start.answering
      if after.isEnding then after else after.withStatus process.status

/-- Runs a simple command. -/
def runSimple : Nat → List (Text × Phrase) → List Phrase → List Redirect → Process → Process
  | 0, _, _, _, process => process
  | budget + 1, assignments, phrases, redirects, process =>
    let (worded, words) := expandWords budget true phrases { process with substitutionStatus := 0 }
    let (expanded, targets) := expandTargets budget redirects worded
    let invocation := Invocation.ofWords words
    if !expanded.isRunning then expanded
    else
      match connectAll budget targets (expanded.preparing invocation) with
      | .error failed =>
        let after := { failed with shadowed := expanded.shadowed : Process }.afterFailure expanded
        if invocation.isSpecial then { after with control := .failing } else after
      | .ok connected =>
        let after := runConnected budget assignments words expanded connected
        if invocation.isFor "exec" then { after with busy := expanded.busy }
        else after.afterRedirects expanded redirects

/-- Runs a simple command whose words are expanded and whose redirections are carried out. -/
def runConnected : Nat → List (Text × Phrase) → List Bytes → Process → Process → Process
  | 0, _, _, _, process => process
  | budget + 1, assignments, words, earlier, process =>
    let invocation := Invocation.ofWords words
    let persists := words.isEmpty || invocation.isSpecial
    let isExposed := !persists || (invocation.isFor "exec" && 1 < invocation.words.length)
    let (assigned, earlierStates, shown) := assignAll budget isExposed assignments process
    let assigned := { assigned with shadowed := earlier.shadowed }
    let traced :=
      if assigned.isRunning && assigned.has .trace && !assigned.isShowing then
        let (expanded, front) :=
          expandVariable budget "PS4" earlier { assigned with isShowing := true }
        { expanded.complainAs earlier (front ++ Process.traceOf (shown ++ words)) with
          isShowing := false }
      else assigned
    if !traced.isRunning then traced
    else if words.isEmpty then traced.withStatus traced.substitutionStatus
    else
      let after :=
        if invocation.takesFunctions then invoke budget invocation traced
        else (invoke budget invocation traced.openScope).closeScope traced
      if persists || after.isEnding then after
      else
        earlierStates.foldr
          (fun (state : Text × Process) (after : Process) => after.restore state.2 state.1) after

/-- The value of a variable with its expansions carried out.  Where that fails, it is complained
about where complaints went earlier, and the value stands for itself. -/
def expandVariable : Nat → String → Process → Process → Process × Bytes
  | 0, _, _, process => (process, [])
  | budget + 1, name, earlier, process =>
    let source := (process.value? name.toList).getD []
    match Reader.expandable (textOf source) with
    | .ok phrase =>
      let (expanded, segments) := expandPhrase budget .word phrase process
      if expanded.control = .failing then ({ expanded with control := .running }, source)
      else (expanded, Segment.join expanded.separators segments)
    | .error malformed =>
      let located := { process with line := malformed.line }
      let message := bytes ("Syntax error: " ++ malformed.message)
      let complaint := { located with utility := none }.complaint message
      ((located.complainAs earlier complaint).withStatus 2, source)

/-- Gives variables their values and lets other programs see them if they are to.  Gives the
variables with the states before they got their values, and the assignments with their values. -/
def assignAll : Nat → Bool → List (Text × Phrase) → Process →
    Process × List (Text × Process) × List Bytes
  | 0, _, _, process => (process, [], [])
  | budget + 1, isExposed, assignments, process =>
    assignments.foldl
      (fun (state : Process × List (Text × Process) × List Bytes) assignment =>
        let (current, earlier, shown) := state
        if !current.isRunning then state
        else
          let (name, phrase) := assignment
          let (expanded, value) := expandValue budget phrase current
          let exposed := if isExposed then expanded.expose name else expanded
          let assigned := if expanded.isRunning then exposed.assign name value else expanded
          (assigned, earlier ++ [(name, expanded)],
            shown ++ [bytesOf name ++ bytes "=" ++ value]))
      (process, [], [])

/-- Runs a function, a utility or a program. -/
def invoke : Nat → Invocation → Process → Process
  | 0, _, process => process
  | budget + 1, invocation, process =>
    match invocation.words with
    | [] => process.withStatus 0
    | name :: arguments =>
      let function? := process.functions.lookup (textOf name)
      match if invocation.takesFunctions then function? else none with
      | some body =>
        let start :=
          if process.calls < callLimit then
            { (process.setArguments arguments).openScope with
              loops := 0
              calls := process.calls + 1 }
          else
            process.abort (bytes "Maximum function recursion depth (" ++ decimal callLimit ++
              bytes ") reached")
        let after := run budget body start
        let restored := { after with utility := process.utility }.closeScope process
        { restored with
          arguments := process.arguments
          optionIndex := process.optionIndex
          optionOffset := process.optionOffset
          loops := process.loops
          calls := process.calls
          control := if restored.control = .returning then .running else restored.control }
      | none =>
        if isUtility (String.ofList (textOf name)) then
          let after := runUtility budget name arguments
            { process with utility := some name, outputFailed := false }
          after.afterUtility process name invocation.isSpecial
        else runProgram budget invocation.usesDefaultPath name arguments process

/-- Runs a utility. -/
def runUtility : Nat → Bytes → List Bytes → Process → Process
  | 0, _, _, process => process
  | budget + 1, name, arguments, process =>
    let word := String.ofList (textOf name)
    match utilities.lookup word with
    | some utility => utility process arguments
    | none =>
      match word, arguments with
      | "eval", _ :: _ =>
        runText budget (textOf ((bytes " ").intercalate arguments)) process
      | "exec", program :: arguments => runInstead budget program arguments process
      | ".", _ =>
        withOptions "" process arguments fun _ operands =>
          match operands with
          | file :: _ => runFile budget file process
          | [] => process.withStatus 0
      | "command", _ => tell process arguments
      | "type", _ => type process arguments
      | "hash", _ => hash process arguments
      | _, _ => process.withStatus 0

/-- Runs the script in a file as a part of the script itself.  A name without a slash is looked for
where programs are. -/
def runFile : Nat → Bytes → Process → Process
  | 0, _, process => process
  | budget + 1, file, process =>
    let isFile (path : Text) : Bool :=
      match (process.files.resolve process.directory path).toOption.bind process.files.node? with
      | some (.file _ _) => true
      | _ => false
    let name := Utf8.decode file
    let found :=
      if '/' ∈ name then some name
      else (Process.candidates process.searchPath name).find? isFile
    match found with
    | none => process.abort (file ++ bytes ": not found")
    | some path =>
      match process.openFor .input path.encode with
      | .error reason => process.abort reason
      | .ok (opened, _) =>
        let after := runSource budget false (.file opened)
          { process with utility := some path.encode, guarded := false }
        { after with
          guarded := process.guarded
          control := if after.control = .returning then .running else after.control }

/-- Runs a program in the place of the script. -/
def runInstead : Nat → Bytes → List Bytes → Process → Process
  | 0, _, _, process => process
  | budget + 1, name, arguments, process =>
    let text := Utf8.decode name
    let paths := if '/' ∈ text then [text] else Process.candidates process.searchPath text
    match process.startFirst name arguments .noSuchEntry paths with
    | .error cause =>
      let complained := process.complain (name ++ bytes (": " ++ startFailure cause))
      { complained with control := .exiting, status := startStatus cause }
    | .ok vector =>
      process.replacedBy (interpret budget vector process.executing)

/-- Runs a program as a process of its own. -/
def runProgram : Nat → Bool → Bytes → List Bytes → Process → Process
  | 0, _, _, _, process => process
  | budget + 1, usesDefaultPath, name, arguments, process =>
    let searchPath := if usesDefaultPath then defaultPath else process.searchPath
    match process.programPaths searchPath name with
    | .error cause => process.fail 127 (name ++ bytes (": " ++ startFailure cause))
    | .ok paths =>
      let located := if usesDefaultPath then process else process.locate (textOf name)
      match located.startFirst name arguments .noSuchEntry paths with
      | .error cause =>
        located.fail (startStatus cause) (name ++ bytes (": " ++ startFailure cause))
      | .ok vector =>
        let ended := interpret budget vector located.executing
        if located.isLast then located.replacedBy ended else located.resume ended

/-- Runs the interpreter with arguments, its name included. -/
def interpret : Nat → List Bytes → Process → Process
  | 0, _, process => process
  | _, [], process => process
  | budget + 1, name :: arguments, process =>
    let chosen := chooseSettings true (arguments.length + 1)
      { process.withOwnVariables with name := name } arguments
    let start :=
      if chosen.process.has .interactive then chosen.process.choose .monitor true
      else chosen.process
    let operands := chosen.arguments.getD []
    if !start.isRunning then start
    else if chosen.hasSource then
      match operands with
      | [] => start.abort (bytes "-c requires an argument")
      | source :: operands =>
        let named :=
          { start with name := operands.head?.getD name, arguments := operands.drop 1 }
        let after := runText budget (textOf source) (begin budget named)
        finish budget
          (if after.isRunning && after.has .fromInput then runWhole budget .input after
          else recover budget .input after)
    else
      match if start.has .fromInput then [] else operands with
      | [] =>
        let named := { start.choose .fromInput true with arguments := operands }
        finish budget (runWhole budget .input (begin budget named))
      | file :: arguments =>
        match start.openFor .input file with
        | .error reason => start.abort reason
        | .ok (opened, _) =>
          let named := { start with name := file, arguments := arguments }
          finish budget (runWhole budget (.file opened) (begin budget named))

/-- Begins a script: an interactive one runs the script first that a variable names. -/
def begin : Nat → Process → Process
  | 0, process => process
  | budget + 1, process =>
    let settled := process.withoutTerminal
    let named := settled.has .interactive && !((settled.value? "ENV".toList).getD []).isEmpty
    if !named then settled
    else
      let (expanded, path) := expandVariable budget "ENV" settled settled
      match expanded.openFor .input path with
      | .error _ => expanded
      | .ok (opened, _) => runSource budget false (.file opened) expanded

/-- Runs a script as a whole. -/
def runWhole : Nat → Source → Process → Process
  | 0, _, process => process
  | budget + 1, source, process => recover budget source (runSource budget true source process)

/-- Goes on after an error in an interactive script.  What was read of the script is passed over. -/
def recover : Nat → Source → Process → Process
  | 0, _, process => process
  | budget + 1, source, process =>
    if process.control = .failing && process.has .interactive then
      runWhole budget source.rest { process with control := .running, loops := 0 }
    else process

/-- Asks for a line of an interactive script. -/
def ask : Nat → String → Process → Process
  | 0, _, process => process
  | budget + 1, name, process =>
    if process.isRunning && process.has .interactive then
      let (expanded, text) := expandVariable budget name process process
      (expanded.write? 2 text).getD expanded
    else process

/-- Takes notice of the end of a script. -/
def reachEnd : Nat → Process → Process
  | 0, process => process
  | budget + 1, process =>
    let told (process : Process) (text : String) : Process :=
      (process.write? 2 (bytes text)).getD process
    if process.has .ignoreEnd then
      (List.range endLimit).foldl
        (fun process _ => ask budget "PS1" (told process "\nUse \"exit\" to leave shell.\n"))
        process
    else if process.has .interactive then told process "\n"
    else process

/-- Runs a text as a script, within which lines count on their own. -/
def runText : Nat → Text → Process → Process
  | 0, _, process => process
  | budget + 1, source, process =>
    { runLines budget false .known (.ofText source) false process with
      lineReached := process.lineReached }

/-- Runs the script that a source holds, within which lines count on their own. -/
def runSource : Nat → Bool → Source → Process → Process
  | 0, _, _, process => process
  | budget + 1, isWhole, source, process =>
    let start := if isWhole then ask budget "PS1" process else process
    { runLines budget isWhole source .ofFile false start with lineReached := process.lineReached }

/-- Runs a script line by line.  A line that may go on in its source is read again with more of it.
`isWhole` tells whether nothing runs behind the script, and `hasRun` whether there was a statement
before. -/
def runLines : Nat → Bool → Source → Reader → Bool → Process → Process
  | 0, _, _, _, _, process => process
  | budget + 1, isWhole, source, reader, hasRun, process =>
    if !process.isRunning then process
    else
      let (found, behind) := reader.nextLine process.aliases process.documents
      let size := if behind.isOver then max Source.portionSize reader.text.length else 0
      let (portion, source, supplied) := source.read size process
      if !portion.isEmpty then
        runLines budget isWhole source (reader.continuedBy (textOf portion)) hasRun supplied
      else
        let shown := { supplied with documents := behind.documents }.showLines reader behind
        let isEnded := found.toOption.isSome && !behind.isOver
        let further := behind.line - reader.line - (if isEnded then 1 else 0)
        let asked := (List.range (if isWhole then further else 0)).foldl
          (fun process _ => ask budget "PS2" process) shown
        match found with
        | .error malformed =>
          let message := bytes ("Syntax error: " ++ malformed.message)
          { asked with line := malformed.line }.abort message
        | .ok none =>
          if isWhole then reachEnd budget asked
          else if hasRun then asked
          else asked.withStatus 0
        | .ok (some statements) =>
          let after :=
            if statements.isEmpty then asked
            else run budget (.sequence statements) { asked with lineReached := behind.line }
          let next := if isWhole then ask budget "PS1" after else after
          runLines budget isWhole source behind (hasRun || !statements.isEmpty) next

/-- Carries out redirections in order.  Gives the process after the complaint if one fails. -/
def connectAll : Nat → List (Redirect × Bytes) → Process → Except Process Process
  | 0, _, process => .error process
  | budget + 1, redirects, process =>
    redirects.foldlM
      (fun (current : Process) (redirect, target) =>
        let (expanded, target) :=
          if redirect.kind = .document then expandValue budget redirect.target current
          else (current, target)
        if !expanded.isRunning then .error expanded
        else
          match expanded.redirect redirect.descriptor redirect.kind target with
          | .ok connected => .ok connected
          | .error reason => .error ((expanded.beforeComplaint redirect).complain reason))
      { process with busy := process.writtenFiles }

/-- The targets of redirections.  What stands in the script is no target yet. -/
def expandTargets : Nat → List Redirect → Process → Process × List (Redirect × Bytes)
  | 0, _, process => (process, [])
  | budget + 1, redirects, process =>
    redirects.foldl
      (fun (state : Process × List (Redirect × Bytes)) redirect =>
        if !state.1.isRunning then state
        else if redirect.kind = .document then (state.1, state.2 ++ [(redirect, [])])
        else
          let (expanded, segments) := expandPhrase budget .word redirect.target state.1
          let target := Segment.join expanded.separators segments
          let checked :=
            if isTarget redirect.kind target || !expanded.isRunning then expanded
            else
              { expanded with line := expanded.lineReached }.abort
                (bytes "Syntax error: Bad fd number")
          (checked, state.2 ++ [(redirect, target)]))
      (process, [])

/-- The fields of phrases, which are those of a command if `ofCommand`. -/
def expandWords : Nat → Bool → List Phrase → Process → Process × List Bytes
  | 0, _, _, process => (process, [])
  | budget + 1, ofCommand, phrases, process =>
    let (expanded, words) := phrases.foldl
      (fun (state : Process × List Bytes) phrase =>
        if !state.1.isRunning then state
        else
          let assignment := (if ofCommand then phrase.assignment? else none).filter fun _ =>
            (Invocation.ofWords state.2.reverse).takesAssignments
          match assignment with
          | some (name, value) =>
            let (expanded, value) := expandValue budget value state.1
            (expanded, (bytesOf name ++ bytes "=" ++ value) :: state.2)
          | none =>
            let (expanded, segments) := expandPhrase budget .word phrase state.1
            let fields := fieldsOf expanded.separators segments
            (expanded, (fields.flatMap expanded.expandField).reverse ++ state.2))
      (process, [])
    (expanded, words.reverse)

/-- The value of a phrase for a variable. -/
def expandValue : Nat → Phrase → Process → Process × Bytes
  | 0, _, process => (process, [])
  | budget + 1, phrase, process =>
    let (expanded, segments) := expandPhrase budget .value phrase process
    (expanded, Segment.join expanded.separators segments)

/-- The segments of a phrase. -/
def expandPhrase : Nat → Destination → Phrase → Process → Process × List Segment
  | 0, _, _, process => (process, [])
  | budget + 1, destination, phrase, process =>
    (process.withHome (destination = .value) phrase).foldl
      (fun state piece =>
        if state.1.isRunning then alongside state (expandPiece budget destination piece state.1)
        else state)
      (process, [])

/-- The segments of a piece. -/
def expandPiece : Nat → Destination → Piece → Process → Process × List Segment
  | 0, _, _, process => (process, [])
  | budget + 1, destination, piece, process =>
    match piece with
    | .literal text quoted =>
      let shown := bytesOf text
      (process, [if destination = .operand then .ofValue quoted shown else .solid shown quoted])
    | .document number => expandPhrase budget .value ((process.documents[number]?).getD []) process
    | .substitution [] quoted => (process, [.ofValue quoted []])
    | .substitution statements quoted =>
      let start := { process.fork with guarded := false }.connectTo 1 (.pipe [] [])
      let ended := finish budget (run budget (.sequence statements) start)
      let output := (ended.opened[process.opened.length]?).map fun file => file.unread ended.files
      let value := dropLineEnds ((output.getD []).filter fun byte => byte ≠ 0)
      let after := (process.resumePart ended).closeSince process
      ({ after with status := process.status, substitutionStatus := after.status },
        [.ofValue quoted value])
    | .arithmetic expression quoted =>
      let (expanded, segments) := expandPhrase budget .value expression process
      let text := Segment.join expanded.separators segments
      if !expanded.isRunning then (expanded, [])
      else
        match expanded.evaluate (.read (textOf text)) with
        | (.ok number, after) => (after, [.ofValue quoted (decimalInteger number)])
        | (.error fault, after) => (after.abort (fault.description text), [])
    | .parameter name treatment quoted =>
      expandParameter budget destination name treatment quoted process

/-- The segments of a parameter. -/
def expandParameter : Nat → Destination → Text → Treatment → Bool → Process →
    Process × List Segment
  | 0, _, _, _, _, process => (process, [])
  | budget + 1, destination, name, treatment, quoted, process =>
    let within := if destination = .value then Destination.value else .operand
    let about (process : Process) (message : Bytes) : Process × List Segment :=
      (process.abort (bytesOf name ++ bytes ": " ++ message), [])
    let notSet : Process × List Segment := about process (bytes "parameter not set")
    let isList := name = ['@'] || (name = ['*'] && !quoted)
    let plain : Process × List Segment :=
      if isList then (process, Segment.ofList quoted process.arguments)
      else
        match process.lookUp name with
        | some value => (process, value.toList.map (.ofValue quoted))
        | none => notSet
    match treatment with
    | .unknown => (process.abort (bytes "Bad substitution"), [])
    | .plain => plain
    | .length =>
      match process.lookUp name with
      | some value =>
        let length := decimal (value.getD []).length
        let isListed := name = ['@'] && !process.arguments.isEmpty
        (process, if isListed then Segment.ofList quoted [length] else [.ofValue quoted length])
      | none => notSet
    | .ifAbsent absence orEmpty operand =>
      let value := process.value? name
      let isAbsent := if orEmpty then (value.getD []).isEmpty else value.isNone
      match absence, isAbsent with
      | .useOperandOtherwise, true => (process, [])
      | .useOperandOtherwise, false | .useOperand, true =>
        expandPhrase budget within operand process
      | _, false => plain
      | .assignOperand, true =>
        let (expanded, segments) := expandPhrase budget .value operand process
        let value := Segment.join expanded.separators segments
        if !expanded.isRunning then (expanded, [])
        else if !isName name then about expanded (bytes "bad variable name")
        else (expanded.assign name value, [.ofValue quoted value])
      | .complain, true =>
        let (expanded, segments) := expandPhrase budget .value operand process
        let missing := bytes ("parameter not set" ++ if orEmpty then " or null" else "")
        if !expanded.isRunning then (expanded, [])
        else
          about expanded
            (if operand.isEmpty then missing else Segment.join expanded.separators segments)
    | .trim side asMuch operand =>
      match process.lookUp name with
      | none => notSet
      | some none => plain
      | some (some value) =>
        let (expanded, segments) := expandPhrase budget .word operand process
        let pattern := Segment.pattern expanded.separators segments
        if isList && destination ≠ .value then
          (expanded, Segment.ofList quoted (pattern.trimAll side asMuch process.arguments))
        else (expanded, [.ofValue quoted (pattern.trim side asMuch value)])

end

/-- How deeply statements may be nested and how often loops may repeat. -/
def budget : Nat :=
  1000000

end Script

end InteractiveShell
