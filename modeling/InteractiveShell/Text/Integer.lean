import InteractiveShell.Text.Basic

/-!
# Decimal integers of 32 bits

An exit status is written as an optional sign and one or more ASCII digits.  Leading zeros are
allowed without limit; the value has to fit in 32 bits with sign.
-/

namespace InteractiveShell

/-- The value of an ASCII digit. -/
def digitValue? (character : Char) : Option Nat :=
  if '0' ≤ character ∧ character ≤ '9' then
    some (character.toNat - '0'.toNat)
  else
    none

/-- The value of a run of ASCII digits read after digits worth `value`. -/
def digitsValue? (value : Nat) : Text → Option Nat
  | [] => some value
  | character :: rest =>
    match digitValue? character with
    | none => none
    | some digit => digitsValue? (10 * value + digit) rest

/-- The value of one or more ASCII digits. -/
def natural? : Text → Option Nat
  | [] => none
  | digits => digitsValue? 0 digits

/-- The value of an optional sign followed by one or more ASCII digits. -/
def integer? : Text → Option Int
  | '-' :: digits => (natural? digits).map fun value => -(value : Int)
  | '+' :: digits => (natural? digits).map Int.ofNat
  | digits => (natural? digits).map Int.ofNat

/-- The value of a decimal integer, provided that it fits in 32 bits with sign. -/
def integer32? (text : Text) : Option Int :=
  (integer? text).filter fun value => -2147483648 ≤ value ∧ value ≤ 2147483647

end InteractiveShell
