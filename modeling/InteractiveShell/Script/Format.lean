import InteractiveShell.Script.Fraction

/-!
# Escapes and formats

The escapes that `echo` and `printf` resolve, and the directives of a format.  A format is gone
through as often as it takes to use up the arguments; arguments that are missing count as empty.
-/

namespace InteractiveShell

namespace Script

/-! ### Escapes -/

/-- The escapes of one character and the bytes that they stand for. -/
def simpleEscapes : List (UInt8 × UInt8) :=
  [('a', 7), ('b', 8), ('e', 27), ('f', 12), ('n', 10), ('r', 13), ('t', 9), ('v', 11),
    ('\\', 92)].map
    fun (character, byte) => (ascii character, byte)

/-- Resolves the escape behind a backslash: its bytes, and what follows it. -/
def escapeAt (text : Bytes) : Bytes × Bytes :=
  match text with
  | [] => ([ascii '\\'], [])
  | escape :: after =>
    if isOctal escape then
      let digits := (text.take 3).takeWhile isOctal
      ([UInt8.ofNat (digitsIn 8 digits)], text.drop digits.length)
    else
      match simpleEscapes.lookup escape with
      | some value => ([value], after)
      | none => ([ascii '\\'], text)

/-- Resolves the escapes of an argument.  Tells whether an escape ended all output. -/
def unescapeArgument : Nat → Bytes → Bytes × Bool
  | 0, _ => ([], false)
  | _, [] => ([], false)
  | fuel + 1, byte :: rest =>
    if byte ≠ ascii '\\' then
      add [byte] (unescapeArgument fuel rest)
    else
      match rest with
      | escape :: after =>
        if escape = ascii 'c' then ([], true)
        else if escape = ascii '0' then
          let digits := (after.take 3).takeWhile isOctal
          add [UInt8.ofNat (digitsIn 8 digits)] (unescapeArgument fuel (after.drop digits.length))
        else
          let (resolved, after) := escapeAt rest
          add resolved (unescapeArgument fuel after)
      | [] => ([byte], false)
where
  add (bytes : Bytes) (found : Bytes × Bool) : Bytes × Bool :=
    (bytes ++ found.1, found.2)

/-- Resolves the escapes of an argument.  Tells whether an escape ended all output. -/
def unescape (argument : Bytes) : Bytes × Bool :=
  unescapeArgument (argument.length + 1) argument

/-! ### Directives -/

/-- A directive of a format. -/
structure Directive where
  flags : Bytes
  width : Nat
  precision : Option Nat
  conversion : UInt8
  /-- The directive as it is written. -/
  written : Bytes

namespace Directive

def hasFlag (directive : Directive) (flag : Char) : Bool :=
  directive.flags.contains (ascii flag)

/-- Fills a field up to the width that a directive asks for, with blanks. -/
def pad (directive : Directive) (field : Bytes) : Bytes :=
  let blanks := List.replicate (directive.width - field.length) (ascii ' ')
  if directive.hasFlag '-' then field ++ blanks else blanks ++ field

/-- Fills the field of a number, with zeros behind its sign if the directive asks for that. -/
def padNumber (directive : Directive) (sign digits : Bytes) (zeros : Bool) : Bytes :=
  if zeros && directive.hasFlag '0' && !directive.hasFlag '-' then
    let missing := directive.width - sign.length - digits.length
    sign ++ List.replicate missing (ascii '0') ++ digits
  else directive.pad (sign ++ digits)

/-- The sign that a directive shows in front of a number. -/
def signOf (directive : Directive) (isNegative : Bool) : Bytes :=
  if isNegative then [ascii '-']
  else if directive.hasFlag '+' then [ascii '+']
  else if directive.hasFlag ' ' then [ascii ' ']
  else []

/-- Writes the digits of an integer behind what is in front of them. -/
def writeInteger (directive : Directive) (front digits : Bytes) : Bytes :=
  let digits := if directive.precision = some 0 && digits = [ascii '0'] then [] else digits
  let zeros := List.replicate ((directive.precision.getD 1) - digits.length) (ascii '0')
  directive.padNumber front (zeros ++ digits) directive.precision.isNone

/-- Hexadecimal digits in the case of the conversion. -/
def inCase (directive : Directive) (digits : Bytes) : Bytes :=
  if ascii 'A' ≤ directive.conversion && directive.conversion ≤ ascii 'Z' then
    digits.map fun byte => if ascii 'a' ≤ byte then byte - 32 else byte
  else digits

/-- Writes an integer as a word of 64 bits in the base of the conversion. -/
def writeWord (directive : Directive) (word : Nat) : Bytes :=
  let is (character : Char) : Bool := directive.conversion = ascii character
  let alternative := directive.hasFlag '#' && word ≠ 0
  if is 'o' then
    let digits := digitsOf 8 word
    let showsZero := directive.hasFlag '#' && word = 0
    let precision := if showsZero then directive.precision.map (max 1) else directive.precision
    { directive with precision := precision }.writeInteger []
      (if alternative then ascii '0' :: digits else digits)
  else if is 'x' || is 'X' then
    let front := if alternative then Text.encode "0x".toList else []
    directive.writeInteger (directive.inCase front) (directive.inCase (digitsOf 16 word))
  else directive.writeInteger [] (decimal word)

/-- The digits behind a point, with the point if there are any. -/
def behindPoint (directive : Directive) (places : Bytes) : Bytes :=
  if places.isEmpty && !directive.hasFlag '#' then [] else ascii '.' :: places

/-- Writes digits with an exponent of ten. -/
def withExponent (directive : Directive) (digits : Bytes) (exponent : Int) : Bytes :=
  let size := decimal exponent.natAbs
  let sign := if exponent < 0 then ascii '-' else ascii '+'
  let isUpper := directive.conversion = ascii 'E' || directive.conversion = ascii 'G'
  digits ++ [if isUpper then ascii 'E' else ascii 'e', sign] ++
    List.replicate (2 - size.length) (ascii '0') ++ size

/-- Drops zeros at the end. -/
def trimZeros (places : Bytes) : Bytes :=
  (places.reverse.dropWhile fun byte => byte = ascii '0').reverse

/-- The digits of a number with a fraction. -/
def fractionDigits (directive : Directive) (value : Fraction) : Bytes :=
  let is (character : Char) : Bool := directive.conversion = ascii character
  let places := directive.precision.getD 6
  if is 'f' || is 'F' then
    let (whole, behind) := value.fixedDigits places
    whole ++ directive.behindPoint behind
  else if is 'e' || is 'E' then
    let (first, behind, exponent) := value.leadingDigits places
    directive.withExponent (first ++ directive.behindPoint behind) exponent
  else
    let kept := max places 1
    let trim (behind : Bytes) : Bytes := if directive.hasFlag '#' then behind else trimZeros behind
    let (first, behind, exponent) := value.leadingDigits (kept - 1)
    if exponent < -4 || (kept : Int) ≤ exponent then
      directive.withExponent (first ++ directive.behindPoint (trim behind)) exponent
    else
      let (whole, behind) := value.fixedDigits ((kept : Int) - 1 - exponent).toNat
      whole ++ directive.behindPoint (trim behind)

/-- Writes a number with its hexadecimal digits and an exponent of two. -/
def writeHexadecimal (directive : Directive) (sign : Bytes) (value : Fraction) : Bytes :=
  let (whole, behind, exponent) := value.hexadecimalDigits (directive.precision.getD 13)
  let places := if directive.precision.isNone then trimZeros behind else behind
  let front := sign ++ directive.inCase (Text.encode "0x".toList)
  let exponentSign := if exponent < 0 then ascii '-' else ascii '+'
  directive.padNumber front
    (directive.inCase (whole ++ directive.behindPoint places ++ [ascii 'p', exponentSign]) ++
      decimal exponent.natAbs)
    true

/-- Writes a number with a fraction behind its sign. -/
def writeQuantity (directive : Directive) (sign : Bytes) (quantity : Quantity) : Bytes :=
  let isUpper := ascii 'A' ≤ directive.conversion && directive.conversion ≤ ascii 'Z'
  let named (lower upper : String) : Bytes :=
    directive.pad (sign ++ Text.encode (if isUpper then upper else lower).toList)
  match quantity with
  | .finite value =>
    if directive.conversion = ascii 'a' || directive.conversion = ascii 'A' then
      directive.writeHexadecimal sign value
    else directive.padNumber sign (directive.fractionDigits value) true
  | .infinite => named "inf" "INF"
  | .undefined => named "nan" "NAN"

end Directive

/-! ### Going through a format -/

/-- How far a format was carried out. -/
structure Rendering where
  /-- The output, the latest part first. -/
  output : List Bytes
  /-- The arguments that are left. -/
  arguments : List Bytes
  /-- What is to be complained about, the latest complaint first. -/
  complaints : List Bytes
  /-- Whether there is no more output. -/
  ended : Bool
  /-- What is wrong with the format. -/
  fault : Option Bytes

namespace Rendering

def write (rendering : Rendering) (bytes : Bytes) : Rendering :=
  { rendering with output := bytes :: rendering.output }

/-- Takes the next argument, which is empty if there is none. -/
def next (rendering : Rendering) : Bytes × Rendering :=
  (rendering.arguments.head?.getD [],
    { rendering with arguments := rendering.arguments.drop 1 })

/-- Complains about an argument. -/
def complain (rendering : Rendering) (argument : Bytes) (reason : String) : Rendering :=
  let complaint := argument ++ Text.encode (": " ++ reason).toList
  { rendering with complaints := complaint :: rendering.complaints }

/-- Complains about an argument of which something is left that is no part of a number. -/
def check (rendering : Rendering) (argument : Bytes) (found : Bool) (rest : Bytes) : Rendering :=
  if rest.isEmpty then rendering
  else if found then rendering.complain argument "not completely converted"
  else rendering.complain argument "expected numeric value"

/-- The code of the character behind a quote, if an argument starts with one. -/
def characterCode? (argument : Bytes) : Option Nat :=
  match argument with
  | first :: rest =>
    if first = ascii '\'' || first = ascii '"' then some ((rest.head?.map UInt8.toNat).getD 0)
    else none
  | [] => none

/-- Takes the next argument as an integer between bounds. -/
def integer (rendering : Rendering) (least greatest : Int) : Int × Rendering :=
  let (argument, after) := rendering.next
  match characterCode? argument, Notation.announced.integerAt? argument with
  | some code, _ => (code, after)
  | none, none => (0, after.check argument false argument)
  | none, some (value, rest) =>
    let bounded := max least (min greatest value)
    let checked := after.check argument true rest
    if bounded = value || !rest.isEmpty then (bounded, checked)
    else (bounded, checked.complain argument "Numerical result out of range")

/-- Takes the next argument as a number with a fraction and tells whether it is negative. -/
def quantity (rendering : Rendering) : Bool × Quantity × Rendering :=
  let (argument, after) := rendering.next
  let text := argument.dropWhile isNumberSpace
  let isNegative := text.head? = some (ascii '-')
  let unsigned := if isNegative || text.head? = some (ascii '+') then text.drop 1 else text
  match characterCode? argument, Quantity.readAt? unsigned with
  | some code, _ => (false, .finite ⟨code, 1⟩, after)
  | none, some (value, isOutOfRange, rest) =>
    let checked := after.check argument true rest
    (isNegative, value,
      if isOutOfRange && rest.isEmpty then checked.complain argument "Numerical result out of range"
      else checked)
  | none, none => (false, .finite ⟨0, 1⟩, after.check argument false argument)

/-- Carries out a directive. -/
def apply (rendering : Rendering) (directive : Directive) : Rendering :=
  let isOneOf (conversions : String) : Bool :=
    (conversions.toList.map ascii).contains directive.conversion
  if isOneOf "s" then
    let (argument, after) := rendering.next
    after.write (directive.pad (argument.take (directive.precision.getD argument.length)))
  else if isOneOf "b" then
    let (argument, after) := rendering.next
    let (text, ended) := unescape argument
    let shown := directive.pad (text.take (directive.precision.getD text.length))
    { after.write shown with ended := ended }
  else if isOneOf "c" then
    let (argument, after) := rendering.next
    after.write (directive.pad [argument.head?.getD 0])
  else if isOneOf "di" then
    let (value, after) := rendering.integer leastInteger greatestInteger
    after.write (directive.writeInteger (directive.signOf (value < 0)) (decimal value.natAbs))
  else if isOneOf "ouxX" then
    let greatest := 2 * greatestInteger + 1
    let (value, after) := rendering.integer (-greatest) greatest
    after.write (directive.writeWord (BitVec.ofInt 64 value).toNat)
  else if isOneOf "aAeEfFgG" then
    let (isNegative, value, after) := rendering.quantity
    after.write (directive.writeQuantity (directive.signOf isNegative) value)
  else
    let reason := Text.encode ": invalid directive".toList
    { rendering with fault := some (directive.written ++ reason) }

/-- Reads a width or precision: digits, or a star for the next argument, of which 32 bits count. -/
def size (rendering : Rendering) (format : Bytes) : Int × Bytes × Rendering :=
  match format with
  | first :: rest =>
    if first = ascii '*' then
      let (value, after) := rendering.integer leastInteger greatestInteger
      ((BitVec.ofInt 32 value).toInt, rest, after)
    else
      let digits := format.takeWhile isDecimal
      (digitsIn 10 digits, format.drop digits.length, rendering)
  | [] => (0, [], rendering)

/-- Reads and carries out the directive behind a percent sign. -/
def directive (rendering : Rendering) (format : Bytes) : Rendering × Bytes :=
  let flags := format.takeWhile fun byte => ("-+ 0#".toList.map ascii).contains byte
  let (width, rest, sized) := rendering.size (format.drop flags.length)
  let (precision, rest, sized) :=
    match rest with
    | point :: after =>
      if point = ascii '.' then
        let (precision, rest, sized) := sized.size after
        (if precision < 0 then none else some precision.toNat, rest, sized)
      else (none, rest, sized)
    | [] => (none, rest, sized)
  match rest with
  | [] =>
    ({ sized with fault := some (Text.encode "missing format character".toList) }, [])
  | conversion :: after =>
    let flags := if width < 0 then ascii '-' :: flags else flags
    let written := ascii '%' :: format.take (format.length - after.length)
    (sized.apply ⟨flags, width.natAbs, precision, conversion, written⟩, after)

/-- Goes once through a format. -/
def once : Nat → Bytes → Rendering → Rendering
  | 0, _, rendering => rendering
  | _, [], rendering => rendering
  | fuel + 1, byte :: rest, rendering =>
    if rendering.ended || rendering.fault.isSome then rendering
    else if byte = ascii '\\' then
      let (resolved, after) := escapeAt rest
      once fuel after (rendering.write resolved)
    else if byte = ascii '%' then
      if rest.head? = some byte then once fuel (rest.drop 1) (rendering.write [byte])
      else
        let (after, format) := rendering.directive rest
        once fuel format after
    else
      once fuel rest (rendering.write [byte])

/-- Goes through a format until the arguments are used up, or none is taken. -/
def all (format : Bytes) : Nat → Rendering → Rendering
  | 0, rendering => rendering
  | fuel + 1, rendering =>
    let after := once (format.length + 1) format rendering
    if after.ended || after.fault.isSome || after.arguments.isEmpty ||
        after.arguments.length = rendering.arguments.length then after
    else all format fuel after

end Rendering

/-- Carries out a format on arguments. -/
def render (format : Bytes) (arguments : List Bytes) : Rendering :=
  Rendering.all format (arguments.length + 1) ⟨[], arguments, [], false, none⟩

end Script

end InteractiveShell
