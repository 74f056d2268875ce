import InteractiveShell.Script.Number

/-!
# Numbers with a fraction

A number with a fraction is read exactly, rounded to the 53 binary digits that such a number keeps,
and written with a number of decimal digits.  Every rounding goes to the nearest number, and to the
even one of two that are equally near.
-/

namespace InteractiveShell

namespace Script

/-- A number that is not negative, as a quotient. -/
structure Fraction where
  numerator : Nat
  denominator : Nat
deriving DecidableEq

/-- The natural number nearest to a quotient. -/
def nearest (numerator denominator : Nat) : Nat :=
  let quotient := numerator / denominator
  let rest := 2 * (numerator % denominator)
  if rest < denominator || (rest = denominator && quotient % 2 = 0) then quotient
  else quotient + 1

namespace Fraction

/-- A number times a power of a base, whose exponent may be negative. -/
def scale (base : Nat) (exponent : Int) (fraction : Fraction) : Fraction :=
  if exponent < 0 then
    ⟨fraction.numerator, fraction.denominator * Nat.pow base exponent.natAbs⟩
  else
    ⟨fraction.numerator * Nat.pow base exponent.natAbs, fraction.denominator⟩

/-- The greatest exponent of a power of a base that is at most a positive number. -/
def exponentIn (base : Nat) (fraction : Fraction) : Int :=
  let guess : Int := (Nat.toDigits base fraction.numerator).length -
    (Nat.toDigits base fraction.denominator).length
  let lowered := fraction.scale base (-guess)
  if lowered.numerator < lowered.denominator then guess - 1 else guess

/-- A number as it is kept in 64 bits. -/
def kept (fraction : Fraction) : Fraction :=
  if fraction.numerator = 0 then ⟨0, 1⟩
  else
    let places : Int := max (fraction.exponentIn 2 - 52) (-1074)
    let scaled := fraction.scale 2 (-places)
    scale 2 places ⟨nearest scaled.numerator scaled.denominator, 1⟩

/-- Whether two numbers are the same. -/
def isSame (first second : Fraction) : Bool :=
  first.numerator * second.denominator = second.numerator * first.denominator

/-- Whether a number is so small that fewer binary digits of it are kept than of others. -/
def isTiny (fraction : Fraction) : Bool :=
  fraction.numerator * Nat.pow 2 1022 < fraction.denominator

/-- The decimal digits of a number with a number of places behind the point. -/
def fixedDigits (fraction : Fraction) (places : Nat) : Bytes × Bytes :=
  let scaled := fraction.scale 10 places
  let digits := decimal (nearest scaled.numerator scaled.denominator)
  let padded := List.replicate (places + 1 - digits.length) (ascii '0') ++ digits
  (padded.take (padded.length - places), padded.drop (padded.length - places))

/-- The first decimal digits of a number, one in front of the point, and the exponent of ten that
belongs to them. -/
def leadingDigits (fraction : Fraction) (places : Nat) : Bytes × Bytes × Int :=
  if fraction.numerator = 0 then ([ascii '0'], List.replicate places (ascii '0'), 0)
  else
    let exponent := fraction.exponentIn 10
    let scaled := fraction.scale 10 (places - exponent)
    let digits := decimal (nearest scaled.numerator scaled.denominator)
    let exponent := if places + 1 < digits.length then exponent + 1 else exponent
    (digits.take 1, (digits.drop 1).take places, exponent)

/-- The hexadecimal digits of a number with a number of places behind the point, and the exponent of
two that belongs to them.  There is a one in front of the point, unless the number is so small that
fewer digits of it are kept. -/
def hexadecimalDigits (fraction : Fraction) (places : Nat) : Bytes × Bytes × Int :=
  let isZero := fraction.numerator = 0
  let exponent := if isZero then 0 else max (fraction.exponentIn 2) (-1022)
  let scaled := (fraction.scale 2 (-exponent)).scale 16 places
  let rounded := nearest scaled.numerator scaled.denominator
  let unit := Nat.pow 16 places
  let behind := digitsOf 16 (rounded % unit)
  (digitsOf 16 (rounded / unit),
    if places = 0 then [] else List.replicate (places - behind.length) (ascii '0') ++ behind,
    exponent)

/-- A bound for the exponents that are read.  What is behind it makes no difference for a number of
few digits. -/
def exponentBound : Int :=
  20000

/-- The exponent behind a mark, which is one of two letters, and the bytes behind it; zero if there
is none. -/
def exponentAt (lower upper : Char) (text : Bytes) : Int × Bytes :=
  match text with
  | mark :: sign :: digits =>
    if mark = ascii lower || mark = ascii upper then
      let isSign := sign = ascii '-' || sign = ascii '+'
      let digits := if isSign then digits else sign :: digits
      let found := digits.takeWhile isDecimal
      if found.isEmpty then (0, text)
      else
        let size := min exponentBound (digitsIn 10 found)
        (if sign = ascii '-' then -size else size, digits.drop found.length)
    else (0, text)
  | _ => (0, text)

/-- Digits with others behind a point, and what follows them; nothing without a digit. -/
def digitsAt? (isDigit : UInt8 → Bool) (text : Bytes) : Option (Bytes × Bytes × Bytes) :=
  let whole := text.takeWhile isDigit
  let rest := text.drop whole.length
  let (places, rest) :=
    match rest with
    | point :: after =>
      if point = ascii '.' then
        let places := after.takeWhile isDigit
        (places, after.drop places.length)
      else ([], rest)
    | [] => ([], rest)
  if whole.isEmpty && places.isEmpty then none else some (whole, places, rest)

/-- The decimal number at the front of some bytes, and the bytes behind it. -/
def decimalAt? (text : Bytes) : Option (Fraction × Bytes) :=
  (digitsAt? isDecimal text).map fun (whole, places, rest) =>
    let value : Fraction := ⟨digitsIn 10 (whole ++ places), Nat.pow 10 places.length⟩
    let (exponent, rest) := exponentAt 'e' 'E' rest
    (value.scale 10 exponent, rest)

/-- The hexadecimal number behind its announcement, and the bytes behind it. -/
def hexadecimalAt? (text : Bytes) : Option (Fraction × Bytes) :=
  (digitsAt? isHexadecimal text).map fun (whole, places, rest) =>
    let value : Fraction := ⟨digitsIn 16 (whole ++ places), Nat.pow 16 places.length⟩
    let (exponent, rest) := exponentAt 'p' 'P' rest
    (value.scale 2 exponent, rest)

end Fraction

/-- What can be written where a number with a fraction is expected. -/
inductive Quantity where
  | finite (value : Fraction)
  | infinite
  /-- What is written is not a number. -/
  | undefined
deriving DecidableEq

namespace Quantity

/-- The quantities that are named, longer names before their beginnings. -/
def names : List (String × Quantity) :=
  [("infinity", infinite), ("inf", infinite), ("nan", undefined)]

/-- The quantity that a number is kept as, and whether the number is out of range: too large, or too
small to be kept as others are. -/
def ofFraction (value : Fraction) : Quantity × Bool :=
  let kept := value.kept
  if Nat.pow 2 1024 * kept.denominator ≤ kept.numerator then (infinite, true)
  else (finite kept, value.isTiny && !kept.isSame value)

/-- The quantity at the front of some bytes without a sign, whether it is out of range, and the
bytes behind it. -/
def readAt? (text : Bytes) : Option (Quantity × Bool × Bytes) :=
  let lower := text.map fun byte => if ascii 'A' ≤ byte && byte ≤ ascii 'Z' then byte + 32 else byte
  let named := names.find? fun entry => (Text.encode entry.1.toList).isPrefixOf lower
  let hexadecimal :=
    if (Text.encode "0x".toList).isPrefixOf lower then Fraction.hexadecimalAt? (text.drop 2)
    else none
  match named with
  | some (name, quantity) =>
    let rest := text.drop name.length
    some (quantity, false, if quantity = undefined then behindNote rest else rest)
  | none =>
    (hexadecimal.or (Fraction.decimalAt? text)).map fun (value, rest) =>
      let (quantity, isOutOfRange) := ofFraction value
      (quantity, isOutOfRange, rest)
where
  /-- What is behind a note in parentheses, if there is one. -/
  behindNote (text : Bytes) : Bytes :=
    match text with
    | opening :: rest =>
      let note := rest.takeWhile fun byte =>
        let lower := byte ||| 0x20
        isDecimal byte || byte = ascii '_' || (ascii 'a' ≤ lower && lower ≤ ascii 'z')
      let behind := rest.drop note.length
      if opening = ascii '(' && behind.head? = some (ascii ')') then behind.drop 1 else text
    | [] => []

end Quantity

end Script

end InteractiveShell
