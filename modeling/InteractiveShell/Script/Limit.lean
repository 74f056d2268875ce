import InteractiveShell.Script.Number

/-!
# Limits of a process

How much of something a process may use.  A process can lower a limit and raise it up to a highest
limit, which it can only lower.
-/

namespace InteractiveShell

namespace Script

/-- How much of something a process may use.  Nothing stands for no limit. -/
structure Limit where
  /-- The letter that names what is limited. -/
  letter : Char
  description : String
  /-- In how many at once it is counted. -/
  unit : Nat
  current : Option Nat
  highest : Option Nat

/-- Why a limit cannot be changed. -/
inductive LimitError where
  | aboveHighest
  | highestRaised

/-- The reason in words. -/
def LimitError.description : LimitError → String
  | aboveHighest => "Invalid argument"
  | highestRaised => "Operation not permitted"

namespace Limit

/-- The limits of a process at first. -/
def initial : List Limit :=
  [⟨'t', "time(seconds)", 1, none, none⟩,
    ⟨'f', "file(blocks)", 512, none, none⟩,
    ⟨'d', "data(kbytes)", 1024, none, none⟩,
    ⟨'s', "stack(kbytes)", 1024, some (8192 * 1024), none⟩,
    ⟨'c', "coredump(blocks)", 512, some 0, none⟩,
    ⟨'m', "memory(kbytes)", 1024, none, none⟩,
    ⟨'l', "locked memory(kbytes)", 1024, some (8192 * 1024), some (8192 * 1024)⟩,
    ⟨'p', "process", 1, some 128620, some 128620⟩,
    ⟨'n', "nofiles", 1, some 20000, some 20000⟩,
    ⟨'v', "vmemory(kbytes)", 1024, none, none⟩,
    ⟨'w', "locks", 1, none, none⟩,
    ⟨'r', "rtprio", 1, some 0, some 0⟩]

/-- The number above all that can be said of a limit, which stands for none. -/
def unlimited : Nat :=
  UInt64.size - 1

/-- A limit as it is told, in units. -/
def shown (limit : Limit) (value : Option Nat) : Bytes :=
  match value with
  | some value => decimal (value / limit.unit)
  | none => Text.encode "unlimited".toList

/-- Reads a limit in units; nothing if it is no number.  Numbers wrap around. -/
def read? (limit : Limit) (text : Bytes) : Option (Option Nat) :=
  let value := digitsIn 10 text * limit.unit % (unlimited + 1)
  if text = Text.encode "unlimited".toList then some none
  else if !text.all isDecimal then none
  else if value = unlimited then some none
  else some (some value)

/-- Whether a limit is no higher than another one. -/
def isWithin : Option Nat → Option Nat → Bool
  | _, none => true
  | none, some _ => false
  | some value, some bound => value ≤ bound

/-- Changes a limit, its highest value, or both. -/
def change (limit : Limit) (current highest : Option (Option Nat)) : Except LimitError Limit :=
  let changed := { limit with
    current := current.getD limit.current
    highest := highest.getD limit.highest }
  if !isWithin changed.current changed.highest then .error .aboveHighest
  else if !isWithin changed.highest limit.highest then .error .highestRaised
  else .ok changed

end Limit

end Script

end InteractiveShell
