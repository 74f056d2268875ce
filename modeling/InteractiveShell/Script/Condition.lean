import InteractiveShell.Script.Number
import InteractiveShell.Script.Process
import InteractiveShell.Text.Utf8

/-!
# Conditions

The conditions of `test`: texts, numbers and files are looked at with operators in front of an
operand or between two, and conditions are negated, joined and put in parentheses.  A word that
could be an operator is an operand where only an operand makes sense.

A condition is read from left to right.  Reading stops at the last word that belongs to it.
-/

namespace InteractiveShell

namespace Script

namespace Condition

/-- The roles of words in a condition. -/
inductive Role where
  | operand
  | ended
  | unary
  | binary
  | negation
  | conjunction
  | disjunction
  | opening
  | closing
deriving DecidableEq

/-- The operators in front of an operand. -/
def unaryOperators : List String :=
  ["-r", "-w", "-x", "-e", "-f", "-d", "-c", "-b", "-p", "-u", "-g", "-k", "-s", "-t", "-z", "-n",
    "-h", "-L", "-O", "-G", "-S"]

/-- The operators between two operands. -/
def binaryOperators : List String :=
  ["=", "!=", "<", ">", "-eq", "-ne", "-ge", "-gt", "-le", "-lt", "-nt", "-ot", "-ef"]

/-- The role that a word has as an operator. -/
def operatorRole? (word : Bytes) : Option Role :=
  let text := String.ofList (textOf word)
  if unaryOperators.contains text then some .unary
  else if binaryOperators.contains text then some .binary
  else
    [("!", Role.negation), ("-a", .conjunction), ("-o", .disjunction), ("(", .opening),
      (")", .closing)].lookup text

/-- Whether a word is an operator between two operands. -/
def isBinary (word : Bytes) : Bool :=
  operatorRole? word = some .binary

/-- The role of the first of some words. -/
def roleOf : List Bytes → Role
  | [] => .ended
  | word :: rest =>
    let standsAlone :=
      match rest with
      | [] => true
      | [_] => false
      | next :: _ => isBinary next
    match operatorRole? word with
    | some .unary => if standsAlone then .operand else .unary
    | some .opening => if rest.isEmpty then .operand else .opening
    | some role => role
    | none => .operand

/-- What is wrong with a condition. -/
abbrev Fault := Bytes

/-- The integer that a word stands for. -/
def integer (word : Bytes) : Except Fault Int :=
  match Notation.decimal.integer? word with
  | some value => .ok value
  | none => .error (illegalNumber word)

/-- Looks at a file or text. -/
def testOne (process : Process) (operator subject : Bytes) : Except Fault Bool :=
  let path := Utf8.decode subject
  let node? := (process.files.resolve process.directory path).toOption.bind process.files.node?
  let hasMode (bits : Nat) : Bool :=
    node?.any fun
      | .file mode _ => mode &&& bits ≠ 0
      | _ => false
  match String.ofList (textOf operator) with
  | "-n" => .ok !subject.isEmpty
  | "-z" => .ok subject.isEmpty
  | "-t" => (integer subject).map fun _ => false
  | "-e" | "-r" | "-w" | "-O" | "-G" => .ok node?.isSome
  | "-f" =>
    .ok (node?.any fun
      | .file _ _ | .interpreter => true
      | _ => false)
  | "-d" =>
    .ok (node?.any fun
      | .directory _ => true
      | _ => false)
  | "-s" =>
    .ok (node?.any fun
      | .file _ content => !content.isEmpty
      | .device _ => false
      | _ => true)
  | "-x" =>
    .ok (node?.any fun
      | .directory _ => true
      | node => FileSystem.canExecute node)
  | "-c" =>
    .ok (node?.any fun
      | .device _ => true
      | _ => false)
  | "-u" => .ok (hasMode 0o4000)
  | "-g" => .ok (hasMode 0o2000)
  | "-k" => .ok (hasMode 0o1000)
  | "-h" | "-L" => .ok (process.files.isLink process.directory path)
  | _ => .ok false

/-- Whether bytes come before others. -/
def precedes : Bytes → Bytes → Bool
  | _, [] => false
  | [], _ :: _ => true
  | first :: rest, second :: later =>
    first < second || (first = second && precedes rest later)

/-- Compares two texts, numbers or files. -/
def testTwo (process : Process) (left operator right : Bytes) : Except Fault Bool :=
  let numbers (holds : Int → Int → Bool) : Except Fault Bool := do
    return holds (← integer left) (← integer right)
  let node? (path : Bytes) : Option NodeId :=
    (process.files.resolve process.directory (Utf8.decode path)).toOption
  match String.ofList (textOf operator) with
  | "=" => .ok (left = right)
  | "!=" => .ok (left ≠ right)
  | "<" => .ok (precedes left right)
  | ">" => .ok (precedes right left)
  | "-eq" => numbers fun first second => first = second
  | "-ne" => numbers fun first second => first ≠ second
  | "-lt" => numbers fun first second => first < second
  | "-le" => numbers fun first second => first ≤ second
  | "-gt" => numbers fun first second => second < first
  | "-ge" => numbers fun first second => second ≤ first
  | "-ef" => .ok ((node? left).isSome && node? left = node? right)
  | _ => .ok false

/-- The value of a condition, and the words from the last one that belongs to it on. -/
abbrev Reading := Except Fault (Bool × List Bytes)

mutual

/-- Evaluates conditions of which one is enough. -/
def either (process : Process) : Nat → Role → List Bytes → Reading
  | 0, _, words => .ok (false, words)
  | fuel + 1, role, words => do
    let (holds, words) ← both process fuel role words
    if roleOf (words.drop 1) = .disjunction then
      let words := words.drop 2
      let (later, words) ← either process fuel (roleOf words) words
      return (holds || later, words)
    else return (holds, words)

/-- Evaluates conditions that all have to hold. -/
def both (process : Process) : Nat → Role → List Bytes → Reading
  | 0, _, words => .ok (false, words)
  | fuel + 1, role, words => do
    let (holds, words) ← negated process fuel role words
    if roleOf (words.drop 1) = .conjunction then
      let words := words.drop 2
      let (later, words) ← both process fuel (roleOf words) words
      return (holds && later, words)
    else return (holds, words)

/-- Evaluates a condition that may be negated. -/
def negated (process : Process) : Nat → Role → List Bytes → Reading
  | 0, _, words => .ok (false, words)
  | fuel + 1, role, words =>
    if role = .negation then do
      let next := roleOf (words.drop 1)
      let (holds, words) ← negated process fuel next
        (if next = .ended then words else words.drop 1)
      return (!holds, words)
    else primary process fuel role words

/-- Evaluates a condition without joints. -/
def primary (process : Process) : Nat → Role → List Bytes → Reading
  | 0, _, words => .ok (false, words)
  | fuel + 1, role, words =>
    match role, words with
    | .ended, _ => .ok (false, words)
    | .opening, _ =>
      let inside := words.drop 1
      if roleOf inside = .closing then .ok (false, inside)
      else do
        let (holds, words) ← either process fuel (roleOf inside) inside
        let words := words.drop 1
        if roleOf words = .closing then return (holds, words)
        else throw (bytes "closing paren expected")
    | .unary, operator :: words =>
      match words with
      | [] => .error (operator ++ bytes ": argument expected")
      | subject :: _ => do return (← testOne process operator subject, words)
    | _, left :: operator :: rest =>
      if roleOf (operator :: rest) = .binary then
        match rest with
        | [] => .error (operator ++ bytes ": argument expected")
        | right :: _ => do return (← testTwo process left operator right, rest)
      else .ok (!left.isEmpty, words)
    | _, [word] => .ok (!word.isEmpty, words)
    | _, [] => .ok (false, words)

end

/-- Evaluates the words of a condition, all of which have to belong to it. -/
def evaluateFrom (process : Process) (role : Role) (words : List Bytes) : Except Fault Bool := do
  match ← either process (8 * (words.length + 1)) role words with
  | (_, last :: _ :: _) =>
    throw ((if last.isEmpty then [] else last ++ bytes ": ") ++ bytes "unexpected operator")
  | (holds, _) => return holds

/-- Whether a condition holds.  Three words with an operator between the others are an operand, an
operator and an operand whatever they look like, and parentheses around few words count as such. -/
def holds (process : Process) (words : List Bytes) : Except Fault Bool :=
  match words with
  | [] => .ok false
  | [first, operator, _] =>
    if isBinary operator then evaluateFrom process .operand words
    else few first [operator] words
  | [first, second, third, _] => few first [second, third] words
  | _ => evaluateFrom process (roleOf words) words
where
  few (first : Bytes) (inside words : List Bytes) : Except Fault Bool :=
    if first = bytes "(" && words.getLast? = some (bytes ")") then
      evaluateFrom process (roleOf inside) inside
    else if first = bytes "!" then do
      let rest := words.drop 1
      let role :=
        match rest with
        | [_, operator, _] => if isBinary operator then Role.operand else roleOf rest
        | _ => roleOf rest
      return !(← evaluateFrom process role rest)
    else evaluateFrom process (roleOf words) words

end Condition

end Script

end InteractiveShell
