/-
Reading whole numbers from texts.

* `readNatural?`: an optional plus sign and digits, with an upper limit;
* `readInteger?`: an optional sign and digits that fit into 64 bits.
-/
import RecordRules.Decimal.Digits

namespace RecordRules

/-- The number that a text of digits, with or without a plus sign, writes.
`none` if it is larger than `limit`. -/
def readNatural? (limit : Nat) (s : List Char) : Option Nat :=
  let digits := match s with
    | '+' :: rest => rest
    | _ => s
  if digits ≠ [] ∧ digits.all Char.isDigit ∧ numberOf digits ≤ limit then some (numberOf digits) else none

/-- The largest count: counts have 64 bits. -/
def countMax : Nat := 18446744073709551615

/-- The number that a text of digits, with or without a sign, writes. `none` if
it does not fit into 64 bits. -/
def readInteger? (s : List Char) : Option Int :=
  match s with
  | '-' :: digits =>
    if digits ≠ [] ∧ digits.all Char.isDigit ∧ numberOf digits ≤ 9223372036854775808 then some (-(numberOf digits : Int))
    else none
  | _ => (readNatural? 9223372036854775807 s).map Int.ofNat

end RecordRules
