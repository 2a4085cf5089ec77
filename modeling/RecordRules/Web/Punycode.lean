/-
Host labels in ASCII that stand for labels in other scripts.

A text is written as its ASCII characters, a hyphen, and one number for each
other character; the numbers, in increasing order of the characters, tell how
far to move through all pairs of a character and a place for it. They are
written with digits `a` to `z`, `0` to `9`, the last digit of each being below a
threshold that depends on the numbers before.

* `Punycode.step`: one digit;
* `Punycode.decode?`: the text that a label stands for.
-/
import RecordRules.Decimal.Digits

namespace RecordRules.Punycode

/-- The value of a digit. -/
def digit? (c : Char) : Option Nat :=
  if c.isLower then some (c.toNat - 'a'.toNat)
  else if c.isUpper then some (c.toNat - 'A'.toNat)
  else if c.isDigit then some (26 + digitValue c)
  else none

/-- Divides a number by 35 until it is at most 455, and counts 36 for every
division. -/
def scale (number count : Nat) : Nat × Nat :=
  if 455 < number then scale (number / 35) (count + 36) else (number, count)
termination_by number
decreasing_by omega

/-- The bias after a number, when the text has `size` characters. -/
def adapt (number size : Nat) (isFirst : Bool) : Nat :=
  let halved := number / (if isFirst then 700 else 2)
  let (small, count) := scale (halved + halved / size) 0
  count + 36 * small / (small + 38)

/-- The text so far and the number that is being read. -/
structure State where
  text : List Char
  /-- The character to insert, as a code point. -/
  point : Nat
  /-- Where to insert it, counted from the last place, so far. -/
  place : Nat
  /-- The place at which the number begins. -/
  start : Nat
  bias : Nat
  /-- The weight of the next digit. -/
  weight : Nat
  /-- 36 for every digit of the number, with the next one. -/
  reach : Nat

/-- The digit that ends a number is below this. -/
def State.threshold (s : State) : Nat := max 1 (min 26 (s.reach - s.bias))

/-- Inserts the character that a complete number stands for, unless there is
none. -/
def State.insert (s : State) (place : Nat) : Option State :=
  let size := s.text.length + 1
  let point := s.point + place / size
  if point.isValidChar then
    let place' := place % size
    some
      { text := s.text.take place' ++ Char.ofNat point :: s.text.drop place'
        point := point
        place := place' + 1
        start := place' + 1
        bias := adapt (place - s.start) size (s.start == 0)
        weight := 1
        reach := 36 }
  else none

/-- The effect of a digit. -/
def step (s : State) (c : Char) : Option State := do
  let d ← digit? c
  let place := s.place + d * s.weight
  if d < s.threshold then s.insert place
  else some { s with place := place, weight := s.weight * (36 - s.threshold), reach := s.reach + 36 }

/-- The ASCII characters and the digits of a label. A hyphen at its start is a
digit, though an impossible one. -/
def divide (label : List Char) : List Char × List Char :=
  let digits := (label.reverse.takeWhile (· ≠ '-')).reverse
  match label.take (label.length - digits.length) with
  | [] | [_] => ([], label)
  | front => (front.dropLast, digits)

/-- The text that a label stands for, if it is well-formed. -/
def decode? (label : List Char) : Option (List Char) :=
  let (plain, digits) := divide label
  match digits.foldlM step ⟨plain, 128, 0, 0, 72, 1, 36⟩ with
  | some s => if s.reach = 36 then some s.text else none
  | none => none

end RecordRules.Punycode
