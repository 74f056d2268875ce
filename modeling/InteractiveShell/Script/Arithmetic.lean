import InteractiveShell.Script.Number
import InteractiveShell.Script.Process

/-!
# Arithmetic in scripts

Expressions over integers of 64 bits and variables.  `Expression.read` takes a text for an
expression and `Expression.evaluate` finds its value or says what is wrong.  An unset variable
counts as zero. What does not matter for the value is not evaluated, so it neither fails nor assigns
anything.

A text that is no expression counts up to the place where something is wrong with it: what is in
front of that place is evaluated, and can fail for a reason of its own.
-/

namespace InteractiveShell

namespace Script

/-- The operations on two integers. -/
inductive Operation where
  | bitOr
  | bitXor
  | bitAnd
  | equal
  | different
  | atMost
  | atLeast
  | below
  | above
  | shiftLeft
  | shiftRight
  | add
  | subtract
  | multiply
  | divide
  | remainder
deriving DecidableEq

/-- What is wrong with an expression that has no value. -/
inductive ExpressionFault where
  | missingOperand
  | missingEnd
  | missingParenthesis
  | missingColon
  | divisionByZero
  /-- A variable's value is no number. -/
  | notNumber (value : Bytes)
deriving DecidableEq

/-- An expression. -/
inductive Expression where
  | number (value : Int)
  | named (name : Text)
  | negative (operand : Expression)
  | complement (operand : Expression)
  | negation (operand : Expression)
  | calculation (operation : Operation) (left right : Expression)
  | both (left right : Expression)
  | either (left right : Expression)
  | choice (condition consequent alternative : Expression)
  /-- Gives a variable a value, which an operation makes of its old one and the operand if there is
  an operation. -/
  | assignment (name : Text) (operation? : Option Operation) (operand : Expression)
  /-- What is in front of a place at which something is wrong. -/
  | broken (before : Expression) (fault : ExpressionFault)

/-- What is wrong with an expression, in words. -/
def ExpressionFault.description (source : Bytes) : ExpressionFault → Bytes
  | missingOperand => about "expecting primary"
  | missingEnd => about "expecting EOF"
  | missingParenthesis => about "expecting ')'"
  | missingColon => about "expecting ':'"
  | divisionByZero => about "division by zero"
  | notNumber value => illegalNumber value
where
  about (reason : String) : Bytes :=
    bytes ("arithmetic expression: " ++ reason ++ ": \"") ++ source ++ bytes "\""

/-! ### Reading expressions -/

/-- The operations as they are written, from the loosest to the tightest. -/
def levels : List (List (String × Operation)) :=
  [[("|", .bitOr)], [("^", .bitXor)], [("&", .bitAnd)], [("==", .equal), ("!=", .different)],
    [("<=", .atMost), (">=", .atLeast), ("<", .below), (">", .above)],
    [("<<", .shiftLeft), (">>", .shiftRight)], [("+", .add), ("-", .subtract)],
    [("*", .multiply), ("/", .divide), ("%", .remainder)]]

/-- The operators that assign, with what they do to the old value. -/
def assignments : List (String × Option Operation) :=
  [("=", none), ("+=", some .add), ("-=", some .subtract), ("*=", some .multiply),
    ("/=", some .divide), ("%=", some .remainder), ("<<=", some .shiftLeft),
    (">>=", some .shiftRight), ("&=", some .bitAnd), ("|=", some .bitOr), ("^=", some .bitXor)]

/-- The operators of more than one character, longer ones before their beginnings. -/
def longOperators : List String :=
  ["<<=", ">>=", "+=", "-=", "*=", "/=", "%=", "&=", "|=", "^=", "<<", ">>", "<=", ">=", "==", "!=",
    "&&", "||"]

/-- What an expression consists of. -/
inductive ExpressionToken where
  | number (value : Int)
  | named (name : Text)
  | operator (written : String)
deriving DecidableEq

/-- Takes an expression apart. -/
def expressionTokens : Nat → Text → List ExpressionToken
  | 0, _ => []
  | _, [] => []
  | fuel + 1, first :: rest =>
    let text := first :: rest
    if first.isWhitespace then expressionTokens fuel rest
    else if first.isDigit then
      match Notation.announced.digitsAt? (bytesOf text) with
      | some (value, behind) =>
        .number (min (value : Int) greatestInteger) ::
          expressionTokens fuel (text.drop (text.length - behind.length))
      | none => [.operator first.toString]
    else if isNameCharacter first then
      let name := text.takeWhile isNameCharacter
      .named name :: expressionTokens fuel (text.drop name.length)
    else
      match longOperators.find? fun written => written.toList.isPrefixOf text with
      | some written => .operator written :: expressionTokens fuel (text.drop written.length)
      | none => .operator first.toString :: expressionTokens fuel rest

/-- What was read from the front of a list of tokens, and the others; nothing instead of these if
something is wrong. -/
abbrev ExpressionReading := Expression × Option (List ExpressionToken)

/-- A reading that ends because something is wrong. -/
def stopped (fault : ExpressionFault) : ExpressionReading :=
  (.broken (.number 0) fault, none)

mutual

/-- Reads an assignment or a choice. -/
def readAssignment : Nat → List ExpressionToken → ExpressionReading
  | 0, _ => stopped .missingOperand
  | fuel + 1, tokens =>
    match tokens with
    | .named name :: .operator written :: rest =>
      match assignments.lookup written with
      | some operation? =>
        let (operand, rest?) := readAssignment fuel rest
        (.assignment name operation? operand, rest?)
      | none => readChoice fuel tokens
    | _ => readChoice fuel tokens

/-- Reads a choice, or what may be its condition. -/
def readChoice : Nat → List ExpressionToken → ExpressionReading
  | 0, _ => stopped .missingOperand
  | fuel + 1, tokens =>
    match readEither fuel tokens with
    | (condition, some (.operator "?" :: rest)) =>
      match readAssignment fuel rest with
      | (consequent, some (.operator ":" :: rest)) =>
        let (alternative, rest?) := readChoice fuel rest
        (.choice condition consequent alternative, rest?)
      | (consequent, some _) =>
        (.choice condition consequent (.broken (.number 0) .missingColon), none)
      | (consequent, none) => (.choice condition consequent (.number 0), none)
    | reading => reading

/-- Reads conditions of which one is enough. -/
def readEither : Nat → List ExpressionToken → ExpressionReading
  | 0, _ => stopped .missingOperand
  | fuel + 1, tokens =>
    match readBoth fuel tokens with
    | (left, some (.operator "||" :: rest)) =>
      let (right, rest?) := readEither fuel rest
      (.either left right, rest?)
    | reading => reading

/-- Reads conditions that are all needed. -/
def readBoth : Nat → List ExpressionToken → ExpressionReading
  | 0, _ => stopped .missingOperand
  | fuel + 1, tokens =>
    match readLevels fuel levels tokens with
    | (left, some (.operator "&&" :: rest)) =>
      let (right, rest?) := readBoth fuel rest
      (.both left right, rest?)
    | reading => reading

/-- Reads operations of the given levels. -/
def readLevels : Nat → List (List (String × Operation)) → List ExpressionToken →
    ExpressionReading
  | 0, _, _ => stopped .missingOperand
  | fuel + 1, [], tokens => readOperand fuel tokens
  | fuel + 1, level :: tighter, tokens =>
    match readLevels fuel tighter tokens with
    | (left, some rest) => readFurther fuel level tighter left rest
    | reading => reading

/-- Reads further operations of one level, from left to right. -/
def readFurther : Nat → List (String × Operation) → List (List (String × Operation)) →
    Expression → List ExpressionToken → ExpressionReading
  | 0, _, _, _, _ => stopped .missingOperand
  | fuel + 1, level, tighter, left, tokens =>
    match tokens with
    | .operator written :: rest =>
      match level.lookup written with
      | some operation =>
        let (right, rest?) := readLevels fuel tighter rest
        let found := Expression.calculation operation left right
        match rest? with
        | some rest => readFurther fuel level tighter found rest
        | none => (found, none)
      | none => (left, some tokens)
    | _ => (left, some tokens)

/-- Reads a number, a variable, a parenthesis or a sign. -/
def readOperand : Nat → List ExpressionToken → ExpressionReading
  | 0, _ => stopped .missingOperand
  | fuel + 1, tokens =>
    match tokens with
    | .number value :: rest => (.number value, some rest)
    | .named name :: rest => (.named name, some rest)
    | .operator "(" :: rest =>
      match readAssignment fuel rest with
      | (inner, some (.operator ")" :: rest)) => (inner, some rest)
      | (inner, some _) => (.broken inner .missingParenthesis, none)
      | reading => reading
    | .operator "+" :: rest => readOperand fuel rest
    | .operator "-" :: rest =>
      let (operand, rest?) := readOperand fuel rest
      (.negative operand, rest?)
    | .operator "~" :: rest =>
      let (operand, rest?) := readOperand fuel rest
      (.complement operand, rest?)
    | .operator "!" :: rest =>
      let (operand, rest?) := readOperand fuel rest
      (.negation operand, rest?)
    | _ => stopped .missingOperand

end

/-- Reads a text as an expression. -/
def Expression.read (source : Text) : Expression :=
  let tokens := expressionTokens (source.length + 1) source
  match readAssignment (32 * (tokens.length + 1)) tokens with
  | (found, none) | (found, some []) => found
  | (found, some _) => .broken found .missingEnd

/-! ### Values -/

/-- The integer of 64 bits that remains of an integer. -/
def wrapped (value : Int) : Int :=
  (BitVec.ofInt 64 value).toInt

/-- The integer that stands for a truth value. -/
def truth (condition : Bool) : Int :=
  if condition then 1 else 0

/-- The result of an operation. -/
def Operation.apply (operation : Operation) (left right : Int) : Except ExpressionFault Int :=
  let leftBits := BitVec.ofInt 64 left
  let rightBits := BitVec.ofInt 64 right
  let places := rightBits.toNat % 64
  match operation with
  | bitOr => .ok (leftBits ||| rightBits).toInt
  | bitXor => .ok (leftBits ^^^ rightBits).toInt
  | bitAnd => .ok (leftBits &&& rightBits).toInt
  | equal => .ok (truth (left = right))
  | different => .ok (truth (left ≠ right))
  | atMost => .ok (truth (left ≤ right))
  | atLeast => .ok (truth (right ≤ left))
  | below => .ok (truth (left < right))
  | above => .ok (truth (right < left))
  | shiftLeft => .ok (leftBits <<< places).toInt
  | shiftRight => .ok (leftBits.sshiftRight places).toInt
  | add => .ok (wrapped (left + right))
  | subtract => .ok (wrapped (left - right))
  | multiply => .ok (wrapped (left * right))
  | divide => if right = 0 then .error .divisionByZero else .ok (wrapped (left.tdiv right))
  | remainder => if right = 0 then .error .divisionByZero else .ok (wrapped (left.tmod right))

/-- The value of a variable as an integer. -/
def Process.integerValue (process : Process) (name : Text) : Except ExpressionFault Int :=
  let value := (process.value? name).getD []
  match valueOfVariable? value with
  | some number => .ok number
  | none => .error (.notNumber value)

/-- What is wrong with an expression that is not evaluated. -/
def Expression.fault? : Expression → Option ExpressionFault
  | number _ | named _ => none
  | negative operand | complement operand | negation operand | assignment _ _ operand =>
    operand.fault?
  | calculation _ left right | both left right | either left right => left.fault?.or right.fault?
  | choice condition consequent alternative =>
    (condition.fault?.or consequent.fault?).or alternative.fault?
  | broken before fault => before.fault?.or (some fault)

/-- An evaluation within a process, whose assignments stay done if it comes to a fault. -/
abbrev Evaluation := ExceptT ExpressionFault (StateM Process)

/-- Passes an expression without a look at its value. -/
def Expression.skip (expression : Expression) : Evaluation Unit :=
  match expression.fault? with
  | some fault => throw fault
  | none => pure ()

/-- The value of an expression. -/
def Expression.evaluate : Expression → Evaluation Int
  | number value => pure value
  | named name => do (← get).integerValue name
  | negative operand => do return wrapped (-(← evaluate operand))
  | complement operand => do return -(← evaluate operand) - 1
  | negation operand => do return truth ((← evaluate operand) = 0)
  | calculation operation left right => do
    let first ← evaluate left
    let second ← evaluate right
    operation.apply first second
  | both left right => do
    if (← evaluate left) = 0 then
      right.skip
      return 0
    else
      return truth ((← evaluate right) ≠ 0)
  | either left right => do
    if (← evaluate left) ≠ 0 then
      right.skip
      return 1
    else
      return truth ((← evaluate right) ≠ 0)
  | choice condition consequent alternative => do
    if (← evaluate condition) ≠ 0 then
      let value ← evaluate consequent
      alternative.skip
      return value
    else
      consequent.skip
      evaluate alternative
  | assignment name operation? operand => do
    let value ← evaluate operand
    let result ←
      match operation? with
      | none => pure value
      | some operation => do operation.apply (← (← get).integerValue name) value
    modify fun process => process.assign name (decimalInteger result)
    return result
  | broken before fault => do
    let _ ← evaluate before
    throw fault

/-- The value of an expression in a process, and the process behind its assignments. -/
def Process.evaluate (process : Process) (expression : Expression) :
    Except ExpressionFault Int × Process :=
  expression.evaluate.run.run process

end Script

end InteractiveShell
