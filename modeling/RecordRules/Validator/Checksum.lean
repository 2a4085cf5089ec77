/-
Check digits.

* `Checksum.luhn`: the sum of the digits, every second one from the right
  doubled, is a multiple of ten;
* `Checksum.iban`: the rearranged account number leaves 1 modulo 97.
-/
import RecordRules.Decimal.Digits
import RecordRules.Rule.Basic
import RecordRules.Text.Utf8

namespace RecordRules.Checksum

/-! ### Card numbers -/

/-- A digit doubled, less nine if it has two digits. -/
def doubled (d : Nat) : Nat := if 9 < 2 * d then 2 * d - 9 else 2 * d

/-- The sum of digits that are read from the right; `odd` holds at every second
place, where the digit is doubled. -/
def luhnSum (odd : Bool) : List Nat → Nat
  | [] => 0
  | d :: rest => (if odd then doubled d else d) + luhnSum (!odd) rest

/-- The check of a card number. A character that is no ASCII digit fails it. -/
def luhn (s : List Char) : Bool :=
  s.all Char.isDigit && luhnSum false (s.reverse.map digitValue) % 10 == 0

/-! ### Account numbers -/

/-- The value of an ASCII digit or letter: letters count on from ten. -/
def alphanumericValue? (c : Char) : Option Nat :=
  if c.isDigit then some (digitValue c)
  else if c.isUpper then some (c.toNat - 'A'.toNat + 10)
  else if c.isLower then some (c.toNat - 'a'.toNat + 10)
  else none

/-- The remainder modulo 97 after one more character: a letter counts as two
digits. -/
def step97 (remainder value : Nat) : Nat := (remainder * (if 10 ≤ value then 100 else 10) + value) % 97

/-- The remainder modulo 97 of the number that characters write; `none` if one
of them has no value. -/
def remainder97? (start : Nat) : List Char → Option Nat
  | [] => some start
  | c :: rest =>
    match alphanumericValue? c with
    | some value => remainder97? (step97 start value) rest
    | none => none

/-- The check of an account number without its shape: spaces are left out, and
the first four bytes move to the end. -/
def iban (s : List Char) : Except Fault Bool :=
  let compact := s.filter (· ≠ ' ')
  match Text.splitAtByte? 4 compact with
  | none => .error .insideCharacter
  | some (front, back) => .ok (remainder97? 0 (back ++ front) == some 1)

end RecordRules.Checksum
