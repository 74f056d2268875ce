import InteractiveShell.Text.Basic

/-!
# Numbers in scripts

How numbers are read from bytes and written as bytes.  A number may have white space and a sign in
front.  Its digits are decimal, or else those of the base that their beginning announces:
hexadecimal behind `0x`, octal behind another zero.
-/

namespace InteractiveShell

namespace Script

/-- Whether a byte is an octal digit. -/
def isOctal (byte : UInt8) : Bool :=
  ascii '0' ≤ byte && byte ≤ ascii '7'

/-- Whether a byte is a decimal digit. -/
def isDecimal (byte : UInt8) : Bool :=
  ascii '0' ≤ byte && byte ≤ ascii '9'

/-- Whether a byte is a hexadecimal digit. -/
def isHexadecimal (byte : UInt8) : Bool :=
  isDecimal byte || (ascii 'a' ≤ byte && byte ≤ ascii 'f') ||
    (ascii 'A' ≤ byte && byte ≤ ascii 'F')

/-- Whether a byte is white space around a number. -/
def isNumberSpace (byte : UInt8) : Bool :=
  byte = 0x20 || (0x09 ≤ byte && byte ≤ 0x0D)

/-- The value of a digit in a base of at most sixteen. -/
def digitValue (digit : UInt8) : Nat :=
  if isDecimal digit then digit.toNat - '0'.toNat
  else (digit ||| 0x20).toNat - 'a'.toNat + 10

/-- The value of digits in a base of at most sixteen. -/
def digitsIn (base : Nat) (digits : Bytes) : Nat :=
  digits.foldl (fun value digit => base * value + digitValue digit) 0

/-- The digits of a number in a base. -/
def digitsOf (base : Nat) (number : Nat) : Bytes :=
  Text.encode (Nat.toDigits base number)

/-- The decimal digits of a number. -/
def decimal (number : Nat) : Bytes :=
  digitsOf 10 number

/-- An integer as it is written. -/
def decimalInteger (number : Int) : Bytes :=
  (if number < 0 then [ascii '-'] else []) ++ decimal number.natAbs

/-- The number that decimal digits alone stand for. -/
def naturalNumber? (text : Bytes) : Option Nat :=
  if !text.isEmpty && text.all isDecimal then some (digitsIn 10 text) else none

/-- Which digits a number is read with. -/
inductive Notation where
  /-- Decimal digits. -/
  | decimal
  /-- The digits of the base that the first ones announce. -/
  | announced
deriving DecidableEq

namespace Notation

/-- The number at the front of some bytes, and the bytes behind it; nothing without a digit. -/
def digitsAt? (kind : Notation) (text : Bytes) : Option (Nat × Bytes) :=
  let read (base : Nat) (isDigit : UInt8 → Bool) (digits : Bytes) : Option (Nat × Bytes) :=
    let found := digits.takeWhile isDigit
    if found.isEmpty then none else some (digitsIn base found, digits.drop found.length)
  match kind, text with
  | .decimal, _ => read 10 isDecimal text
  | .announced, zero :: mark :: digit :: rest =>
    if zero ≠ ascii '0' then read 10 isDecimal text
    else if (mark = ascii 'x' || mark = ascii 'X') && isHexadecimal digit then
      read 16 isHexadecimal (digit :: rest)
    else read 8 isOctal text
  | .announced, zero :: _ =>
    if zero = ascii '0' then read 8 isOctal text else read 10 isDecimal text
  | .announced, [] => none

/-- The integer at the front of some bytes, and the bytes behind it; nothing if there is none. -/
def integerAt? (kind : Notation) (text : Bytes) : Option (Int × Bytes) :=
  match text.dropWhile isNumberSpace with
  | sign :: digits =>
    if sign = ascii '-' then (kind.digitsAt? digits).map fun (value, rest) => (-(value : Int), rest)
    else if sign = ascii '+' then (kind.digitsAt? digits).map fun (value, rest) => (value, rest)
    else (kind.digitsAt? (sign :: digits)).map fun (value, rest) => (value, rest)
  | [] => none

end Notation

/-- The smallest integer of 64 bits. -/
def leastInteger : Int :=
  -9223372036854775808

/-- The largest integer of 64 bits. -/
def greatestInteger : Int :=
  9223372036854775807

/-- The integer that some bytes stand for as a whole, if it has at most 64 bits. -/
def Notation.integer? (kind : Notation) (text : Bytes) : Option Int :=
  match kind.integerAt? text with
  | some (value, rest) =>
    if rest.all isNumberSpace && leastInteger ≤ value && value ≤ greatestInteger then some value
    else none
  | none => none

/-- The number, one that fits in 32 bits with a sign, that some bytes stand for as a whole. -/
def count? (text : Bytes) : Option Nat :=
  match Notation.decimal.integer? text with
  | some value => if 0 ≤ value && value < 2147483648 then some value.toNat else none
  | none => none

/-- The integer that the value of a variable stands for, an empty value counting as zero. -/
def valueOfVariable? (text : Bytes) : Option Int :=
  if text.all isNumberSpace then some 0 else Notation.announced.integer? text

end Script

end InteractiveShell
