import InteractiveShell.Script.Utility.Basic

/-!
# The utilities for settings and arguments

The settings of a script are chosen by options, the script gets other arguments, and it looks for
options among them itself.
-/

namespace InteractiveShell

namespace Script

/-- Lists the settings, as a table or as a script could choose them again. -/
def Process.listSettings (process : Process) (asTable : Bool) : Process :=
  let lines := Setting.table.map fun (_, name, setting) =>
    let chosen := process.has setting
    if asTable then
      let gap := String.ofList (List.replicate (16 - name.length) ' ')
      bytes (name ++ gap ++ (if chosen then "on\n" else "off\n"))
    else bytes ("set " ++ (if chosen then "-o " else "+o ") ++ name ++ "\n")
  process.emit 1 ((if asTable then bytes "Current option settings\n" else []) ++ lines.flatten)

/-- What is left of arguments whose settings were chosen. -/
structure Chosen where
  process : Process
  /-- The arguments behind the settings; nothing if there are to be none. -/
  arguments : Option (List Bytes)
  /-- Whether a script is given as an argument. -/
  hasSource : Bool

/-- Chooses settings by the arguments at the front. -/
def chooseSettings (atStart : Bool) : Nat → Process → List Bytes → Chosen
  | 0, process, arguments => ⟨process, some arguments, false⟩
  | _, process, [] => ⟨process, none, false⟩
  | fuel + 1, process, argument :: rest =>
    match textOf argument with
    | ['-'] =>
      let quiet := (process.choose .trace false).choose .verbose false
      ⟨if atStart then process else quiet, if rest.isEmpty then none else some rest, false⟩
    | ['-', '-'] => ⟨process, some rest, false⟩
    | sign :: letters =>
      if sign = '-' || sign = '+' then
        let wanted := sign = '-'
        let (process, rest, hasSource) := letters.foldl (choose wanted) (process, rest, false)
        if process.isRunning then
          let chosen := chooseSettings atStart fuel process rest
          { chosen with hasSource := hasSource || chosen.hasSource }
        else ⟨process, none, false⟩
      else ⟨process, some (argument :: rest), false⟩
    | [] => ⟨process, some (argument :: rest), false⟩
where
  choose (wanted : Bool) (state : Process × List Bytes × Bool) (letter : Char) :
      Process × List Bytes × Bool :=
    let (process, rest, hasSource) := state
    let set (setting : Setting) : Process := process.choose setting wanted
    if !process.isRunning then state
    else if letter = 'c' && atStart then (process, rest, true)
    else if letter = 'o' then
      match rest with
      | [] => (process.listSettings wanted, [], hasSource)
      | name :: rest =>
        match Setting.ofName? (String.ofList (textOf name)) with
        | some setting => (set setting, rest, hasSource)
        | none => (process.abort (bytes "Illegal option -o " ++ name), rest, hasSource)
    else
      match Setting.ofLetter? letter with
      | some setting => (set setting, rest, hasSource)
      | none => (process.abort (bytes "Illegal option -" ++ bytesOf [letter]), rest, hasSource)

/-- A process for which settings were chosen.  Jobs cannot be controlled without a terminal. -/
def Process.withoutTerminal (process : Process) : Process :=
  if process.has .monitor && !process.isPart then
    (process.complain (bytes "can't access tty; job control turned off")).choose .monitor false
  else process

/-- Chooses settings and gives arguments. -/
def set (process : Process) (arguments : List Bytes) : Process :=
  if arguments.isEmpty then process.list "" (process.bindings.map Prod.fst)
  else
    let chosen := chooseSettings false (arguments.length + 1) (process.withStatus 0) arguments
    if !chosen.process.isRunning then chosen.process
    else
      let settled := chosen.process.withoutTerminal
      (chosen.arguments.map settled.setArguments).getD settled

/-- Drops arguments of the script from the front. -/
def shift (process : Process) (arguments : List Bytes) : Process :=
  withNumber process (arguments.head?.getD (bytes "1")) fun count =>
    if process.arguments.length < count then process.abort (bytes "can't shift that many")
    else (process.setArguments (process.arguments.drop count)).withStatus 0

/-- What one look at the options of arguments finds. -/
structure OptionFound where
  letter : Char
  /-- The value of the variable for an option's argument; nothing if it gets none. -/
  argument : Option Bytes
  /-- What is wrong with the option. -/
  complaint : Option Bytes
  /-- The argument from which options are read next. -/
  index : Nat
  /-- How far the argument before that was read, if it has more options. -/
  offset : Option Nat

/-- What follows an option in a list of options, of which those that take an argument have a colon
behind them. -/
def behindOption? (letter : Char) : Text → Option Text
  | [] => none
  | first :: ':' :: rest =>
    if first = letter then some (':' :: rest) else behindOption? letter rest
  | first :: rest => if first = letter then some rest else behindOption? letter rest

/-- Looks for the next option among arguments; nothing behind the last one. -/
def nextOption (allowed : Text) (operands : List Bytes) (index : Nat) (offset : Option Nat) :
    Except Nat OptionFound :=
  let current := ((operands[index - 2]?).map textOf).getD []
  let unread := if 1 < index then (offset.map fun count => current.drop count).getD [] else []
  let start : Except Nat (Text × Nat) :=
    match unread with
    | _ :: _ => .ok (unread, index)
    | [] =>
      match (operands[index - 1]?).map textOf with
      | some ['-', '-'] => .error (index + 1)
      | some ('-' :: first :: rest) => .ok (first :: rest, index + 1)
      | _ => .error index
  start.map fun (text, index) =>
    let letter := text.head?.getD '?'
    let rest := text.drop 1
    let word := ((operands[index - 2]?).map textOf).getD []
    let offset := some (word.length - rest.length)
    let isQuiet := allowed.head? = some ':'
    let about (text : String) : Option Bytes :=
      if isQuiet then none else some (bytes text)
    match behindOption? letter allowed with
    | none =>
      ⟨'?', if isQuiet then some (bytesOf [letter]) else none,
        about ("Illegal option -" ++ letter.toString ++ "\n"), index, offset⟩
    | some behind =>
      if behind.head? ≠ some ':' then ⟨letter, some [], none, index, offset⟩
      else
        match rest, operands[index - 1]? with
        | _ :: _, _ => ⟨letter, some (bytesOf rest), none, index, none⟩
        | [], some argument => ⟨letter, some argument, none, index + 1, none⟩
        | [], none =>
          ⟨if isQuiet then ':' else '?', if isQuiet then some (bytesOf [letter]) else none,
            about ("No arg for -" ++ letter.toString ++ " option\n"), index, offset⟩

/-- Finds the next option of the script or of other arguments. -/
def getopts (process : Process) (arguments : List Bytes) : Process :=
  match arguments with
  | allowed :: name :: given =>
    let operands := if given.isEmpty then process.arguments else given
    let start :=
      if operands.length + 1 < process.optionIndex then process.startOptions 1 else process
    let finish (process : Process) (letter : Char) (index : Nat) (offset : Option Nat)
        (found : Bool) : Process :=
      let counted := process.assign "OPTIND".toList (decimal index)
      let assigned := counted.assignTo (textOf name) (bytesOf [letter])
      if assigned.isRunning then
        { assigned.succeedIf found with optionIndex := index, optionOffset := offset }
      else assigned
    match nextOption (textOf allowed) operands start.optionIndex start.optionOffset with
    | .error index => finish start '?' index none false
    | .ok option =>
      let complained :=
        (option.complaint.bind fun complaint => start.write? 2 complaint).getD start
      let argued :=
        match option.argument with
        | some value => complained.assign "OPTARG".toList value
        | none => complained.forget "OPTARG".toList
      finish argued option.letter option.index option.offset true
  | _ => process.abort (bytes "Usage: getopts optstring var [arg...]")

end Script

end InteractiveShell
