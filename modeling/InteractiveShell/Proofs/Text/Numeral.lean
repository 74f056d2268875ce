import InteractiveShell.Text.Integer
import Mathlib.Data.Nat.Digits.Defs

/-!
# Numerals

A numeral is an optional sign in front of one or more ASCII digits, and it has the value that its
digits have in base ten.  `integer?` reads exactly the numerals, leading zeros without limit
included, and `integer32?` those whose value fits in 32 bits with sign.
-/

namespace InteractiveShell

/-- One or more ASCII digits. -/
def IsDigits (digits : Text) : Prop :=
  digits ≠ [] ∧ ∀ character ∈ digits, character.isDigit = true

/-- The value of a run of ASCII digits in base ten. -/
def decimalValue (digits : Text) : Nat :=
  Nat.ofDigits 10
    (digits.reverse.map fun character => character.toNat - '0'.toNat)

/-- An optional sign in front of digits, with its value. -/
inductive Numeral : Text → Int → Prop where
  | unsigned {digits : Text} (written : IsDigits digits) :
      Numeral digits (decimalValue digits)
  | positive {digits : Text} (written : IsDigits digits) :
      Numeral ('+' :: digits) (decimalValue digits)
  | negative {digits : Text} (written : IsDigits digits) :
      Numeral ('-' :: digits) (-decimalValue digits)

/-- A numeral whose value fits in 32 bits with sign. -/
def Numeral32 (text : Text) (value : Int) : Prop :=
  Numeral text value ∧ -2 ^ 31 ≤ value ∧ value ≤ 2 ^ 31 - 1

@[simp]
theorem decimalValue_nil : decimalValue [] = 0 :=
  rfl

theorem decimalValue_cons (character : Char) (rest : Text) :
    decimalValue (character :: rest) =
      10 ^ rest.length * (character.toNat - '0'.toNat) +
        decimalValue rest := by
  simp [decimalValue, Nat.ofDigits_append, Nat.add_comm]

theorem digitValue?_eq (character : Char) :
    digitValue? character =
      if character.isDigit = true then
        some (character.toNat - '0'.toNat)
      else
        none := by
  have same :
      ('0' ≤ character ∧ character ≤ '9') ↔ character.isDigit = true := by
    rw [Char.isDigit, Bool.and_eq_true, decide_eq_true_iff,
      decide_eq_true_iff]
    rfl
  rw [digitValue?]
  exact if_congr same rfl rfl

/-- Digits behind a run that is worth `start`. -/
theorem digitsValue?_eq_some_iff
    {digits : Text} {start value : Nat} :
    digitsValue? start digits = some value ↔
      (∀ character ∈ digits, character.isDigit = true) ∧
        value = 10 ^ digits.length * start + decimalValue digits := by
  induction digits generalizing start with
  | nil => simp [digitsValue?, @eq_comm _ value]
  | cons character rest ih =>
      cases digit : character.isDigit with
      | false =>
          simp [digitsValue?, digitValue?_eq, digit]
      | true =>
          have total :
              10 ^ rest.length *
                    (10 * start + (character.toNat - '0'.toNat)) +
                  decimalValue rest =
                10 ^ (character :: rest).length * start +
                  decimalValue (character :: rest) := by
            rw [decimalValue_cons, List.length_cons, pow_succ]
            ring
          rw [digitsValue?, digitValue?_eq, if_pos digit]
          simp only [ih, total, List.forall_mem_cons, digit, true_and]

theorem natural?_eq_some_iff {text : Text} {value : Nat} :
    natural? text = some value ↔
      IsDigits text ∧ value = decimalValue text := by
  cases text with
  | nil => simp [natural?, IsDigits]
  | cons character rest =>
      have read :
          natural? (character :: rest) = digitsValue? 0 (character :: rest) :=
        rfl
      rw [read, digitsValue?_eq_some_iff, Nat.mul_zero, Nat.zero_add]
      simp [IsDigits]

theorem IsDigits.not_mem
    {digits : Text} (written : IsDigits digits) {character : Char}
    (other : character.isDigit = false) :
    character ∉ digits := by
  intro member
  rw [written.2 character member] at other
  cases other

/-- A text without a sign is a numeral if it has digits only. -/
theorem numeral_iff_of_unsigned
    {text : Text} {value : Int}
    (notMinus : text.head? ≠ some '-') (notPlus : text.head? ≠ some '+') :
    Numeral text value ↔ IsDigits text ∧ value = decimalValue text := by
  constructor
  · intro numeral
    cases numeral with
    | unsigned written => exact ⟨written, rfl⟩
    | positive written => exact absurd rfl notPlus
    | negative written => exact absurd rfl notMinus
  · rintro ⟨written, rfl⟩
    exact .unsigned written

theorem numeral_minus_iff {digits : Text} {value : Int} :
    Numeral ('-' :: digits) value ↔
      IsDigits digits ∧ value = -decimalValue digits := by
  constructor
  · intro numeral
    cases numeral with
    | unsigned written =>
        exact absurd List.mem_cons_self (written.not_mem rfl)
    | negative written => exact ⟨written, rfl⟩
  · rintro ⟨written, rfl⟩
    exact .negative written

theorem numeral_plus_iff {digits : Text} {value : Int} :
    Numeral ('+' :: digits) value ↔
      IsDigits digits ∧ value = decimalValue digits := by
  constructor
  · intro numeral
    cases numeral with
    | unsigned written =>
        exact absurd List.mem_cons_self (written.not_mem rfl)
    | positive written => exact ⟨written, rfl⟩
  · rintro ⟨written, rfl⟩
    exact .positive written

/-- What is read as an integer are the numerals, each with its value. -/
theorem integer?_eq_some_iff {text : Text} {value : Int} :
    integer? text = some value ↔ Numeral text value := by
  unfold integer?
  split
  · rename_i digits
    rw [numeral_minus_iff]
    simp [Option.bind_eq_some_iff, natural?_eq_some_iff, @eq_comm _ value]
  · rename_i digits
    rw [numeral_plus_iff, Option.map_eq_some_iff]
    simp [natural?_eq_some_iff, eq_comm]
  · rename_i digits notMinus notPlus
    rw [numeral_iff_of_unsigned, Option.map_eq_some_iff]
    · simp [natural?_eq_some_iff, eq_comm]
    · intro signed
      rcases List.head?_eq_some_iff.mp signed with ⟨rest, same⟩
      exact notMinus rest same
    · intro signed
      rcases List.head?_eq_some_iff.mp signed with ⟨rest, same⟩
      exact notPlus rest same

/-- What is read as a 32-bit integer are the numerals whose value fits. -/
theorem integer32?_eq_some_iff {text : Text} {value : Int} :
    integer32? text = some value ↔ Numeral32 text value := by
  simp [integer32?, Option.filter_eq_some_iff, integer?_eq_some_iff,
    Numeral32]

theorem integer32?_eq_none_iff {text : Text} :
    integer32? text = none ↔ ∀ value, ¬ Numeral32 text value := by
  rw [Option.eq_none_iff_forall_ne_some]
  simp only [ne_eq, integer32?_eq_some_iff]

end InteractiveShell
