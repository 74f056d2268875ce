import InteractiveShell.Text.Basic

/-!
# Decoding UTF-8 byte by byte

A decoder receives one byte at a time and hands out the characters that the byte completes.  It
holds at most one unfinished sequence.  A byte that cannot continue the sequence ends it with a
replacement character and then counts for itself, so a malformed sequence never takes a following
key with it: the byte that ends it is decoded as if nothing had been pending.

A sequence of the announced length that is no character's encoding (an overlong form, a surrogate, a
value above the last code point) gives one replacement character.
-/

namespace InteractiveShell

namespace Utf8

/-- The character that stands for a malformed sequence. -/
def replacement : Char :=
  '\uFFFD'

/-- Continuation bytes carry the last bits of a character of several bytes. -/
def isContinuation (byte : UInt8) : Bool :=
  0x80 ≤ byte && byte ≤ 0xBF

/-- How many continuation bytes a first byte announces; nothing for a byte that starts no sequence
of several bytes. -/
def announced? (first : UInt8) : Option Nat :=
  if 0xC0 ≤ first && first ≤ 0xDF then some 1
  else if 0xE0 ≤ first && first ≤ 0xEF then some 2
  else if 0xF0 ≤ first && first ≤ 0xF7 then some 3
  else none

/-- The number made of the payload bits of a sequence: the low bits of the first byte, fewer the
longer the sequence is, and six bits of each further byte. -/
def payload : Bytes → Nat
  | [] => 0
  | [single] => single.toNat
  | first :: continuation =>
    continuation.foldl
      (fun value byte => value * 64 + byte.toNat % 64)
      (first.toNat % (64 >>> continuation.length))

/-- The character whose encoding is exactly the given bytes. -/
def character? (bytes : Bytes) : Option Char :=
  (some (Char.ofNat (payload bytes))).filter fun candidate =>
    String.utf8EncodeChar candidate = bytes

/-- The character that a sequence of announced length stands for. -/
def character (bytes : Bytes) : Char :=
  (character? bytes).getD replacement

theorem encode_of_character?_eq_some {bytes : Bytes} {result : Char}
    (found : character? bytes = some result) :
    String.utf8EncodeChar result = bytes := by
  simp only [character?, Option.filter_eq_some_iff, decide_eq_true_eq] at found
  exact found.2

/-- What a decoder holds between two bytes. -/
inductive Decoder where
  /-- Nothing is pending. -/
  | idle
  /-- The bytes of an unfinished sequence; one more byte than `missing` has still to come. -/
  | unfinished (bytes : Bytes) (missing : Nat)
deriving DecidableEq

namespace Decoder

/-- Receives a byte when nothing is pending. -/
def begin (byte : UInt8) : Decoder × Text :=
  if byte < 0x80 then
    (idle, [Char.ofNat byte.toNat])
  else
    match announced? byte with
    | some (missing + 1) => (unfinished [byte] missing, [])
    | _ => (idle, [replacement])

/-- Receives a byte; hands out the characters that it completes. -/
def feed : Decoder → UInt8 → Decoder × Text
  | idle, byte => begin byte
  | unfinished bytes missing, byte =>
    if isContinuation byte then
      match missing with
      | 0 => (idle, [character (bytes ++ [byte])])
      | fewer + 1 => (unfinished (bytes ++ [byte]) fewer, [])
    else
      let (next, characters) := begin byte
      (next, replacement :: characters)

/-- The characters still due when no byte will follow. -/
def finish : Decoder → Text
  | idle => []
  | unfinished _ _ => [replacement]

/-- All characters of a run of bytes, read to its end from a decoder. -/
def run : Decoder → Bytes → Text
  | decoder, [] => decoder.finish
  | decoder, byte :: rest =>
    let (next, characters) := decoder.feed byte
    characters ++ run next rest

end Decoder

/-- The characters of a run of bytes. -/
def decode (bytes : Bytes) : Text :=
  Decoder.idle.run bytes

end Utf8

end InteractiveShell
