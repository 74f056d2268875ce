import InteractiveShell.Script.Process
import InteractiveShell.Text.Order

/-!
# Utilities

The utilities that a script's interpreter runs itself.  A utility that is used in a wrong way ends
the script; where it is not a special one, the script goes on after all, because that is a failure
of its command alone.
-/

namespace InteractiveShell

namespace Script

/-- What a utility does with its arguments. -/
abbrev Utility := Process → List Bytes → Process

/-- Reads the options in front of the other arguments, each of which is one of the given letters.
Some of them take an argument of their own, which is passed over.  Gives the letters and the other
arguments, or the complaint about an option. -/
def readOptions (plain taking : Text) : List Bytes → Except Bytes (Text × List Bytes)
  | [] => .ok ([], [])
  | argument :: rest =>
    match textOf argument with
    | ['-', '-'] => .ok ([], rest)
    | '-' :: first :: others =>
      let letters := (first :: others).takeWhile plain.contains
      let behind :=
        match (first :: others).drop letters.length with
        | [] => readOptions plain taking rest
        | letter :: attached =>
          if !taking.contains letter then
            .error (bytes "Illegal option -" ++ bytesOf [letter])
          else if !attached.isEmpty then readOptions plain taking rest
          else
            match rest with
            | [] => .error (bytes "No arg for -" ++ bytesOf [letter] ++ bytes " option")
            | _ :: behind => readOptions plain taking behind
      behind.map fun (others, rest) => (letters ++ others, rest)
    | _ => .ok ([], argument :: rest)

/-- Runs a utility on the arguments behind its options. -/
def withOptions (allowed : String) (process : Process) (arguments : List Bytes)
    (go : Text → List Bytes → Process) : Process :=
  match readOptions allowed.toList [] arguments with
  | .ok (letters, rest) => go letters rest
  | .error complaint => process.abort complaint

/-- Runs a utility that takes one option, at which the others are not looked at, on the arguments
behind it. -/
def withOption (allowed : Char) (process : Process) (arguments : List Bytes)
    (go : Bool → List Bytes → Process) : Process :=
  match arguments with
  | [] => go false []
  | argument :: rest =>
    match textOf argument with
    | ['-', '-'] => go false rest
    | '-' :: first :: _ =>
      if first = allowed then go true rest
      else process.abort (bytes "Illegal option -" ++ bytesOf [first])
    | _ => go false arguments

/-- Goes on with the number that an argument stands for. -/
def withNumber (process : Process) (argument : Bytes) (go : Nat → Process) : Process :=
  match count? argument with
  | some number => go number
  | none => process.abort (illegalNumber argument)

/-- A value as it can be read again by a script. -/
def quoteValue (value : Bytes) : Bytes :=
  go (value.length + 1) value
where
  go : Nat → Bytes → Bytes
    | 0, _ => []
    | fuel + 1, value =>
      let plain := value.takeWhile fun byte => byte ≠ ascii '\''
      let rest := value.drop plain.length
      let quotes := rest.takeWhile fun byte => byte = ascii '\''
      let later := rest.drop quotes.length
      let shown := [ascii '\''] ++ plain ++ [ascii '\'']
      if quotes.isEmpty then shown
      else
        shown ++ [ascii '"'] ++ quotes ++ [ascii '"'] ++
          (if later.isEmpty then [] else go fuel later)

/-- The place of a word in the listing of a table with a number of places. -/
def placeIn (places : Nat) (word : Text) : Nat :=
  word.foldl (fun sum character => sum + character.toNat)
    (16 * (word.head?.map Char.toNat).getD 0) % places

/-- Entries in the order of a listing by the places of their words, in which older entries come
first. -/
def listingBy {α : Type} (places : Nat) (wordOf : α → Text) (entries : List α) : List α :=
  entries.mergeSort fun first second =>
    placeIn places (wordOf first) ≤ placeIn places (wordOf second)

/-- Lists some variables as a script could set them again. -/
def Process.list (process : Process) (beginning : String) (names : List Text) : Process :=
  let lines := (names.eraseDups.mergeSort Text.atMost).map fun name =>
    let value := (process.bindings.lookup name).map fun value => bytes "=" ++ quoteValue value
    bytes beginning ++ bytesOf name ++ value.getD [] ++ bytes "\n"
  (process.emit 1 lines.flatten).withStatus 0

end Script

end InteractiveShell
