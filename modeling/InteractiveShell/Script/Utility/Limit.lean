import InteractiveShell.Script.Utility.Basic

/-!
# The utilities for limits

The access that new files do not grant, the time that was used, and the limits of a process.
-/

namespace InteractiveShell

namespace Script

/-- The access that a letter stands for, as one digit, where some access is granted. -/
def accessOf (granted : Nat) (letter : Char) : Nat :=
  match letter with
  | 'r' => 4
  | 'w' => 2
  | 'x' => 1
  | 'u' => granted >>> 6 &&& 7
  | 'g' => granted >>> 3 &&& 7
  | 'o' => granted &&& 7
  | 'X' => if granted &&& 0o111 = 0 then 0 else 1
  | _ => 0

/-- Whose access a letter stands for, as the digits that are ones. -/
def ownersOf (letter : Char) : Nat :=
  match letter with
  | 'u' => 0o100
  | 'g' => 0o010
  | 'o' => 0o001
  | _ => 0o111

/-- What several letters stand for together. -/
def together (meaning : Char → Nat) (letters : Text) : Nat :=
  letters.foldl (fun sum letter => sum ||| meaning letter) 0

/-- The access that is granted after changes, as in `u=rw,g-x`, were made to it as it was changed
before; nothing if there is something else in them.  A change without owners is for those of the
change in front of it, or else for everyone. -/
def changeAccess? (granted : Nat) : Nat → Nat → Nat → Text → Option Nat
  | 0, changed, _, _ => some changed
  | fuel + 1, changed, owners, changes =>
    let who := changes.takeWhile "augo".toList.contains
    let owners := owners ||| together ownersOf who
    let owners := if owners = 0 then 0o111 else owners
    match changes.drop who.length with
    | [] => some changed
    | action :: rest =>
      let letters := rest.takeWhile "rwxugoXs".toList.contains
      let access := together (accessOf granted) letters * owners
      let without (removed : Nat) : Nat := changed &&& (0o777 ^^^ removed)
      let changed? :=
        match action with
        | '+' => some (changed ||| access)
        | '-' => some (without access)
        | '=' => some (without (7 * owners) ||| access)
        | _ => none
      changed?.bind fun changed =>
        match rest.drop letters.length with
        | [] => some changed
        | ',' :: rest => changeAccess? granted fuel changed 0 rest
        | next :: rest =>
          if "+-=".toList.contains next then
            changeAccess? granted fuel changed owners (next :: rest)
          else none

/-- Shows or chooses the access that new files do not grant. -/
def umask (process : Process) (arguments : List Bytes) : Process :=
  withOptions "S" process arguments fun letters operands =>
    match operands with
    | [] =>
      let digit (shift : Nat) : Nat := (process.mask >>> shift) % 8
      let granted (shift : Nat) : String :=
        let kept := 7 - digit shift
        (if kept &&& 4 ≠ 0 then "r" else "") ++ (if kept &&& 2 ≠ 0 then "w" else "") ++
          (if kept &&& 1 ≠ 0 then "x" else "")
      let shown :=
        if letters.isEmpty then
          "0" ++ String.join ([6, 3, 0].map fun shift => toString (digit shift))
        else "u=" ++ granted 6 ++ ",g=" ++ granted 3 ++ ",o=" ++ granted 0
      (process.emit 1 (bytes (shown ++ "\n"))).withStatus 0
    | mode :: _ =>
      if mode.head?.any isDecimal then
        if mode.all isOctal then { process with mask := digitsIn 8 mode % 0o1000, status := 0 }
        else process.abort (illegalNumber mode)
      else
        let granted := 0o777 ^^^ process.mask
        let changed := changeAccess? granted (mode.length + 1) granted 0 (textOf mode)
        match changed with
        | some granted => { process with mask := 0o777 ^^^ granted, status := 0 }
        | none => process.abort (bytes "Illegal mode: " ++ mode)

/-- Shows how much time was used. -/
def times (process : Process) (_ : List Bytes) : Process :=
  (process.emit 1 (bytes "0m0.000000s 0m0.000000s\n0m0.000000s 0m0.000000s\n")).withStatus 0

/-- Shows or changes limits. -/
def ulimit (process : Process) (arguments : List Bytes) : Process :=
  withOptions ("HSa" ++ String.ofList (process.limits.map Limit.letter)) process arguments
    fun letters operands =>
      let named := letters.filter fun letter => !(['H', 'S', 'a'].contains letter)
      let letter := named.getLast?.getD 'f'
      let side? := (letters.filter fun letter => letter = 'H' || letter = 'S').getLast?
      let value (limit : Limit) : Option Nat :=
        if side? = some 'H' then limit.highest else limit.current
      match process.limits.find? fun limit => limit.letter = letter, operands with
      | some limit, [] =>
        let lines :=
          if letters.contains 'a' then
            process.limits.map fun limit =>
              let gap := String.ofList (List.replicate (20 - limit.description.length) ' ')
              bytes (limit.description ++ gap ++ " ") ++ limit.shown (value limit)
          else [limit.shown (value limit)]
        (process.emit 1 (lines.flatMap fun line => line ++ bytes "\n")).withStatus 0
      | some limit, [operand] =>
        if letters.contains 'a' then process.abort (bytes "too many arguments")
        else
          match limit.read? operand with
          | none => process.abort (bytes "bad number")
          | some value =>
            let changed := limit.change (if side? = some 'H' then none else some value)
              (if side? = some 'S' then none else some value)
            match changed with
            | .error cause =>
              process.abort (bytes ("error setting limit (" ++ cause.description ++ ")"))
            | .ok changed =>
              let limits := process.limits.map fun limit =>
                if limit.letter = letter then changed else limit
              { process with limits := limits, status := 0 }
      | _, _ => process.abort (bytes "too many arguments")

end Script

end InteractiveShell
