import InteractiveShell.Script.Statement

/-!
# Patterns

A pattern matches a run of bytes: a star stands for any bytes, a question mark for one, a bracket
for one of a set.  A byte that is quoted or follows a backslash stands for itself.
-/

namespace InteractiveShell

namespace Script

/-- A byte of a pattern, and whether it was quoted. -/
abbrev Pattern := List (UInt8 × Bool)

namespace Pattern

/-- The pattern made of bytes that are all quoted or all not. -/
def ofBytes (quoted : Bool) (bytes : Bytes) : Pattern :=
  bytes.map fun byte => (byte, quoted)

/-- The bytes of a pattern. -/
def bytes (pattern : Pattern) : Bytes :=
  pattern.map Prod.fst

end Pattern

/-- Whether a byte of a pattern is an unquoted character. -/
def isMark (element : UInt8 × Bool) (character : Char) : Bool :=
  !element.2 && element.1.toNat = character.toNat

/-- Whether a pattern only matches its own bytes. -/
def Pattern.isPlain (pattern : Pattern) : Bool :=
  !pattern.any fun element => isMark element '*' || isMark element '?' || isMark element '['

/-- The classes of bytes that a bracket can name. -/
def byteClasses : List (String × (UInt8 → Bool)) :=
  let between (first last : Char) (byte : UInt8) : Bool := ascii first ≤ byte && byte ≤ ascii last
  let upper := between 'A' 'Z'
  let lower := between 'a' 'z'
  let digit := between '0' '9'
  let graph := between '!' '~'
  let alpha (byte : UInt8) : Bool := upper byte || lower byte
  let alnum (byte : UInt8) : Bool := alpha byte || digit byte
  [("alpha", alpha), ("digit", digit), ("alnum", alnum), ("upper", upper), ("lower", lower),
    ("space", fun byte => byte = 0x20 || (0x09 ≤ byte && byte ≤ 0x0D)),
    ("blank", fun byte => byte = 0x20 || byte = 0x09),
    ("punct", fun byte => graph byte && !alnum byte), ("print", between ' ' '~'),
    ("graph", graph), ("cntrl", fun byte => byte < 0x20 || byte = 0x7F),
    ("xdigit", fun byte => digit byte || between 'a' 'f' byte || between 'A' 'F' byte)]

/-- What stands between brackets. -/
inductive Member where
  /-- All bytes between two, these included. -/
  | range (first last : UInt8)
  /-- The bytes of a class. -/
  | ofClass (name : String)
deriving DecidableEq

/-- Whether a byte is meant. -/
def Member.contains (byte : UInt8) : Member → Bool
  | range first last => first ≤ byte && byte ≤ last
  | ofClass name => (byteClasses.lookup name).any fun holds => holds byte

/-- The class named behind a bracket in a bracket, and what follows it. -/
def byteClass? (pattern : Pattern) : Option (String × Pattern) :=
  (byteClasses.find? fun entry => (written entry.1).isPrefixOf pattern.bytes).map fun (name, _) =>
    (name, pattern.drop (written name).length)
where
  written (name : String) : Bytes := (":" ++ name ++ ":]").toList.map ascii

/-- Drops a backslash that quotes the element behind it. -/
def unquoteFirst : Pattern → Pattern
  | first :: second :: rest =>
    if isMark first '\\' then (second.1, true) :: rest else first :: second :: rest
  | pattern => pattern

/-- The set between brackets: whether it is negated, its members, and what follows it. -/
def bracket (pattern : Pattern) : Option (Bool × List Member × Pattern) :=
  match pattern with
  | first :: rest =>
    if isMark first '!' then
      (members rest.length rest true).map fun (found, rest) => (true, found, rest)
    else
      (members pattern.length pattern true).map fun (found, rest) => (false, found, rest)
  | [] => none
where
  members : Nat → Pattern → Bool → Option (List Member × Pattern)
    | 0, _, _ => none
    | fuel + 1, pattern, atStart =>
      match unquoteFirst pattern with
      | [] => none
      | first :: rest =>
        if isMark first ']' && !atStart then some ([], rest)
        else
          match if isMark first '[' then byteClass? rest else none with
          | some (name, rest) => add fuel (.ofClass name) rest
          | none =>
            match rest with
            | dash :: last :: after =>
              if isMark dash '-' && !isMark last ']' then
                match unquoteFirst (last :: after) with
                | last :: after => add fuel (.range first.1 last.1) after
                | [] => none
              else add fuel (.range first.1 first.1) rest
            | _ => add fuel (.range first.1 first.1) rest
  add (fuel : Nat) (member : Member) (rest : Pattern) : Option (List Member × Pattern) :=
    (members fuel rest false).map fun (found, rest) => (member :: found, rest)

/-- What a pattern consists of. -/
inductive PatternPart where
  /-- Any bytes, be it none. -/
  | anyBytes
  | anyByte
  | byte (byte : UInt8)
  /-- One byte that is meant by one of the members, or by none of them. -/
  | oneOf (negated : Bool) (members : List Member)

/-- Whether a part of a pattern takes a byte. -/
def PatternPart.takes : PatternPart → UInt8 → Bool
  | anyBytes, _ | anyByte, _ => true
  | byte expected, found => found = expected
  | oneOf negated members, found => members.any (Member.contains found) != negated

/-- The parts of a pattern. -/
def Pattern.parts (pattern : Pattern) : List PatternPart :=
  go (pattern.length + 1) pattern
where
  go : Nat → Pattern → List PatternPart
    | 0, _ => []
    | fuel + 1, pattern =>
      match unquoteFirst pattern with
      | [] => []
      | first :: rest =>
        if isMark first '*' then .anyBytes :: go fuel rest
        else if isMark first '?' then .anyByte :: go fuel rest
        else
          match if isMark first '[' then bracket rest else none with
          | some (negated, members, after) => .oneOf negated members :: go fuel after
          | none => .byte first.1 :: go fuel rest

/-- For each beginning of a subject, the shortest one first, whether a part of a pattern ends there
if those in front of it end where `reached` tells. -/
def PatternPart.reach (subject : Bytes) (reached : List Bool) : PatternPart → List Bool
  | anyBytes =>
    (reached.foldl
      (fun (state : List Bool × Bool) here =>
        let reaches := state.2 || here
        (reaches :: state.1, reaches))
      ([], false)).1.reverse
  | part => false :: List.zipWith (fun here byte => here && part.takes byte) reached subject

/-- For each beginning of a subject, the shortest one first, whether the parts match it. -/
def matchedBeginnings (parts : List PatternPart) (subject : Bytes) : List Bool :=
  parts.foldl (PatternPart.reach subject) (true :: subject.map fun _ => false)

/-- Whether a pattern matches a whole run of bytes. -/
def Pattern.matches (pattern : Pattern) (subject : Bytes) : Bool :=
  (matchedBeginnings pattern.parts subject).getLast?.getD false

/-- The length of the longest or shortest beginning that is matched. -/
def lengthAmong? (longest : Bool) (matched : List Bool) : Option Nat :=
  if longest then (matched.reverse.findIdx? id).map fun index => matched.length - 1 - index
  else matched.findIdx? id

/-- The bytes behind the longest or shortest beginning that a pattern matches. -/
def Pattern.behindBeginning? (pattern : Pattern) (longest : Bool) (subject : Bytes) :
    Option Bytes :=
  (lengthAmong? longest (matchedBeginnings pattern.parts subject)).map fun length =>
    subject.drop length

/-- The bytes in front of the longest or shortest end that a pattern matches. -/
def Pattern.beforeEnd? (pattern : Pattern) (longest : Bool) (subject : Bytes) : Option Bytes :=
  (lengthAmong? longest (matchedBeginnings pattern.parts.reverse subject.reverse)).map fun length =>
    subject.take (subject.length - length)

/-- Takes what a pattern matches off an end of a value. -/
def Pattern.trim (pattern : Pattern) (side : ValueEnd) (asMuch : Bool) (subject : Bytes) : Bytes :=
  match side with
  | .front => (pattern.behindBeginning? asMuch subject).getD subject
  | .back => (pattern.beforeEnd? asMuch subject).getD subject

/-- Takes what a pattern matches off an end of values that follow one another.  At the front it is
looked for in the first value; as much as there is takes everything if it is the whole first value.
At the back, what follows the place that is found goes away; as much as there is is looked for in
the first value only. -/
def Pattern.trimAll (pattern : Pattern) (side : ValueEnd) (asMuch : Bool) (values : List Bytes) :
    List Bytes :=
  match values, side, asMuch with
  | [], _, _ => []
  | first :: rest, .front, asMuch =>
    if asMuch && pattern.matches first then [[]]
    else (pattern.behindBeginning? asMuch first).getD first :: rest
  | first :: rest, .back, true =>
    match pattern.beforeEnd? true first with
    | some kept => [kept]
    | none => first :: rest
  | values, .back, false => (fromLast values).getD values
where
  /-- Trims the last value of those in which something is found, and drops the ones behind it. -/
  fromLast : List Bytes → Option (List Bytes)
    | [] => none
    | first :: rest =>
      match fromLast rest with
      | some trimmed => some (first :: trimmed)
      | none => (pattern.beforeEnd? false first).map fun kept => [kept]

end Script

end InteractiveShell
