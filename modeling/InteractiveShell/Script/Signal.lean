import InteractiveShell.Script.Number

/-!
# Signals

The signals by which a script can be told something.  Zero stands for the end of the script where a
signal is waited for, and for no signal at all where one is sent.
-/

namespace InteractiveShell

namespace Script

namespace Signal

/-- The names of the signals, the first of which has the number one. -/
def names : List String :=
  ["HUP", "INT", "QUIT", "ILL", "TRAP", "ABRT", "BUS", "FPE", "KILL", "USR1", "SEGV", "USR2",
    "PIPE", "ALRM", "TERM", "16", "CHLD", "CONT", "STOP", "TSTP", "TTIN", "TTOU", "URG", "XCPU",
    "XFSZ", "VTALRM", "PROF", "WINCH", "IO", "PWR", "SYS", "32", "33", "RTMIN"] ++
    ((List.range 16).drop 1).map (fun count => "RTMIN+" ++ toString count) ++
    ((List.range 15).drop 1).reverse.map (fun count => "RTMAX-" ++ toString count) ++ ["RTMAX"]

/-- The name of the end of a script among the signals. -/
def endName : String :=
  "EXIT"

/-- The first number that is no signal's. -/
def bound : Nat :=
  65

/-- The signal that tells of the end of a process. -/
def ofChild : Nat :=
  17

/-- The signal that ends a script in an orderly way. -/
def termination : Nat :=
  15

/-- The signals that leave a script running that does not wait for them. -/
def harmless : List Nat :=
  [0, 17, 18, 23, 28]

/-- The signals that nothing can hold off. -/
def inevitable : List Nat :=
  [9, 19]

/-- The signals that do not reach what runs behind a script. -/
def fromKeyboard : List Nat :=
  [2, 3]

/-- The signals about which nothing is said if they end a program. -/
def quiet : List Nat :=
  [2, 13]

/-- What is said about a program that a signal ended. -/
def description (signal : Nat) : String :=
  let known := [(1, "Hangup"), (2, "Interrupt"), (3, "Quit"), (4, "Illegal instruction"),
    (5, "Trace/breakpoint trap"), (6, "Aborted"), (7, "Bus error"), (8, "Floating point exception"),
    (9, "Killed"), (10, "User defined signal 1"), (11, "Segmentation fault"),
    (12, "User defined signal 2"), (13, "Broken pipe"), (14, "Alarm clock"), (15, "Terminated"),
    (16, "Stack fault"), (24, "CPU time limit exceeded"), (25, "File size limit exceeded"),
    (26, "Virtual timer expired"), (27, "Profiling timer expired"), (29, "I/O possible"),
    (30, "Power failure"), (31, "Bad system call")]
  let other :=
    if firstOfOwn ≤ signal then "Real-time signal " ++ toString (signal - firstOfOwn)
    else "Unknown signal " ++ toString signal
  (known.lookup signal).getD other
where
  /-- The first signal without a meaning of its own. -/
  firstOfOwn : Nat := 34

/-- The name of a signal, or its number if it has none. -/
def nameOf (signal : Nat) : Bytes :=
  match signal with
  | 0 => Text.encode endName.toList
  | number + 1 =>
    match names[number]? with
    | some name => Text.encode name.toList
    | none => decimal signal

/-- Whether a text is a name, in letters of either kind. -/
def isNamed (text : Bytes) (name : String) : Bool :=
  let upper := text.map fun byte => if ascii 'a' ≤ byte && byte ≤ ascii 'z' then byte - 32 else byte
  upper = Text.encode name.toList

/-- Whether a text names the end of a script. -/
def isEnd (text : Bytes) : Bool :=
  isNamed text endName

/-- The signal of a name. -/
def ofName? (text : Bytes) : Option Nat :=
  (names.findIdx? (isNamed text)).map Nat.succ

/-- The signal of a number. -/
def ofNumber? (text : Bytes) : Option Nat :=
  (naturalNumber? text).filter fun number => number < bound

/-- The signal that a name or number stands for. -/
def ofText? (text : Bytes) : Option Nat :=
  (ofNumber? text).or (ofName? text)

end Signal

end Script

end InteractiveShell
