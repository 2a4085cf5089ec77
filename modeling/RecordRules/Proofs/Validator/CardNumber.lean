/-
Typing errors in card numbers.

The check weighs every digit by its place, counted from the right: at every second place
the digit is doubled, and loses nine if that has two digits.

* `Checksum.weight`: what a digit adds to the sum; `Checksum.weight_inj` and
  `Checksum.exists_weight_eq`: at each place the ten digits add ten different numbers
  below ten;
* `Checksum.total_append_cons`: one digit of a text and all the others;
* `Checksum.existsUnique_luhn`: at each place of a text exactly one digit passes;
* `Checksum.luhn_swap_iff`: when a text still passes with two neighbours swapped;
* `Checksum.luhn_detects`: which typing errors the check detects.
-/
import Mathlib.Data.Nat.Bits
import RecordRules.Proofs.Decimal.Digits
import RecordRules.Validator.Checksum

namespace RecordRules

namespace Checksum

variable {p q : List Char} {a b c d : Char}

/-! ### Weights -/

/-- What a digit adds to the sum; `odd` holds at the places where it is doubled. -/
def weight (odd : Bool) (d : Nat) : Nat := if odd then doubled d else d

lemma weight_true (d : Nat) : weight true d = if 9 < 2 * d then 2 * d - 9 else 2 * d := rfl

lemma weight_false (d : Nat) : weight false d = d := rfl

lemma weight_lt (odd : Bool) {d : Nat} (small : d < 10) : weight odd d < 10 := by
  cases odd with
  | false => exact small
  | true => rw [weight_true]; split <;> omega

/-- Different digits add different numbers. -/
lemma weight_inj (odd : Bool) {d e : Nat} (small : d < 10) (small' : e < 10)
    (same : weight odd d = weight odd e) : d = e := by
  cases odd with
  | false => exact same
  | true =>
    -- up to 4 the weight is even, from 5 on it is odd
    rw [weight_true, weight_true] at same
    split at same <;> split at same <;> omega

/-- Every number below ten is added by a digit. -/
lemma exists_weight_eq (odd : Bool) {r : Nat} (small : r < 10) : ∃ d < 10, weight odd d = r := by
  cases odd with
  | false => exact ⟨r, small, rfl⟩
  | true =>
    rcases Nat.mod_two_eq_zero_or_one r with even | odd
    · refine ⟨r / 2, by omega, ?_⟩
      rw [weight_true, if_neg (by omega)]
      omega
    · refine ⟨r / 2 + 5, by omega, ?_⟩
      rw [weight_true, if_pos (by omega)]
      omega

/-- Two digits at neighbouring places add the same when they are swapped, up to a multiple
of ten, only if they are zero and nine. -/
lemma weight_swap_iff (odd : Bool) {d e : Nat} (small : d < 10) (small' : e < 10) :
    (weight odd d + weight (!odd) e) % 10 = (weight odd e + weight (!odd) d) % 10 ↔
      d = e ∨ (d = 0 ∧ e = 9) ∨ (d = 9 ∧ e = 0) := by
  cases odd <;> simp only [Bool.not_true, Bool.not_false, weight_true, weight_false] <;>
    split <;> split <;> omega

/-! ### Sums -/

lemma luhnSum_cons (odd : Bool) (d : Nat) (rest : List Nat) :
    luhnSum odd (d :: rest) = weight odd d + luhnSum (!odd) rest := rfl

/-- Behind some digits the places alternate from where these end. -/
lemma luhnSum_append (odd : Bool) (l m : List Nat) :
    luhnSum odd (l ++ m) = luhnSum odd l + luhnSum (odd ^^ l.length.bodd) m := by
  induction l generalizing odd with
  | nil => simp [luhnSum]
  | cons d l ih =>
    have places : (!odd ^^ l.length.bodd) = (odd ^^ (d :: l).length.bodd) := by simp
    calc luhnSum odd (d :: l ++ m)
        = weight odd d + luhnSum (!odd) (l ++ m) := luhnSum_cons odd d (l ++ m)
      _ = weight odd d + (luhnSum (!odd) l + luhnSum (!odd ^^ l.length.bodd) m) := by rw [ih]
      _ = luhnSum odd (d :: l) + luhnSum (odd ^^ (d :: l).length.bodd) m := by
        rw [places, luhnSum_cons]
        omega

/-- The sum over the digits of a text. -/
def total (s : List Char) : Nat := luhnSum false (s.reverse.map digitValue)

/-- A text passes iff it has digits only and their sum is a multiple of ten. -/
lemma luhn_iff {s : List Char} : luhn s = true ↔ (∀ c ∈ s, c.isDigit = true) ∧ total s % 10 = 0 := by
  rw [luhn, Bool.and_eq_true, List.all_eq_true, beq_iff_eq, total]

/-- The place of a character, by what stands behind it: whether the digit is doubled. -/
def isDoubled (behind : List Char) : Bool := behind.length.bodd

/-- What the characters before a place add to the sum. -/
def frontTotal (odd : Bool) (p : List Char) : Nat := luhnSum odd (p.reverse.map digitValue)

/-- The sum over a text is the weight of one digit, and what stands behind and before it
adds, which does not depend on the digit. -/
lemma total_append_cons (p q : List Char) (c : Char) :
    total (p ++ c :: q) = total q + weight (isDoubled q) (digitValue c) + frontTotal (!isDoubled q) p := by
  have parts : (p ++ c :: q).reverse.map digitValue =
      q.reverse.map digitValue ++ digitValue c :: p.reverse.map digitValue := by simp
  rw [total, parts, luhnSum_append, luhnSum_cons, total, frontTotal, isDoubled, List.length_map,
    List.length_reverse, Bool.false_xor, Nat.add_assoc]

lemma frontTotal_concat (odd : Bool) (p : List Char) (c : Char) :
    frontTotal odd (p ++ [c]) = weight odd (digitValue c) + frontTotal (!odd) p := by
  rw [frontTotal, List.reverse_append, List.reverse_singleton, List.singleton_append, List.map_cons,
    luhnSum_cons, frontTotal]

/-- The same with two neighbours. -/
lemma total_append_cons_cons (p q : List Char) (a b : Char) :
    total (p ++ a :: b :: q) = total q + (weight (isDoubled q) (digitValue b) +
      weight (!isDoubled q) (digitValue a)) + frontTotal (isDoubled q) p := by
  have front : p ++ a :: b :: q = (p ++ [a]) ++ b :: q := by simp
  rw [front, total_append_cons, frontTotal_concat, Bool.not_not]
  omega

/-! ### One digit -/

/-- **At each place exactly one digit passes.** -/
theorem existsUnique_luhn (front : ∀ c ∈ p, c.isDigit = true) (behind : ∀ c ∈ q, c.isDigit = true) :
    ∃! c, c.isDigit = true ∧ luhn (p ++ c :: q) = true := by
  have passes_iff : ∀ c, c.isDigit = true → (luhn (p ++ c :: q) = true ↔
      (total q + weight (isDoubled q) (digitValue c) + frontTotal (!isDoubled q) p) % 10 = 0) := by
    intro c digit
    have digits : ∀ d ∈ p ++ c :: q, d.isDigit = true :=
      List.forall_mem_append.mpr ⟨front, List.forall_mem_cons.mpr ⟨digit, behind⟩⟩
    rw [luhn_iff, total_append_cons, and_iff_right digits]
  -- what the digit has to add to the others
  let missing := (10 - (total q + frontTotal (!isDoubled q) p) % 10) % 10
  obtain ⟨d, small, added⟩ := exists_weight_eq (isDoubled q) (r := missing) (by omega)
  refine ⟨digitChar d, ⟨isDigit_digitChar small, ?_⟩, ?_⟩
  · rw [passes_iff _ (isDigit_digitChar small), digitValue_digitChar small, added]
    omega
  · rintro c ⟨digit, passed⟩
    rw [passes_iff c digit] at passed
    have bound := weight_lt (isDoubled q) (digitValue_lt digit)
    have same : weight (isDoubled q) (digitValue c) = weight (isDoubled q) d := by omega
    have value := weight_inj (isDoubled q) (digitValue_lt digit) small same
    refine digitValue_inj digit (isDigit_digitChar small) ?_
    rw [value, digitValue_digitChar small]

/-- A text that passes has digits around each of its places. -/
lemma isDigit_of_luhn_append_cons (valid : luhn (p ++ c :: q) = true) :
    (∀ d ∈ p, d.isDigit = true) ∧ c.isDigit = true ∧ ∀ d ∈ q, d.isDigit = true := by
  obtain ⟨front, rest⟩ := List.forall_mem_append.mp (luhn_iff.mp valid).1
  exact ⟨front, List.forall_mem_cons.mp rest⟩

/-- No other character passes in the place of one that does. -/
lemma luhn_replace (valid : luhn (p ++ c :: q) = true) (differ : d ≠ c) : luhn (p ++ d :: q) = false := by
  obtain ⟨front, digit, behind⟩ := isDigit_of_luhn_append_cons valid
  rw [← Bool.not_eq_true]
  intro passed
  obtain ⟨-, digit', -⟩ := isDigit_of_luhn_append_cons passed
  exact differ ((existsUnique_luhn front behind).unique ⟨digit', passed⟩ ⟨digit, valid⟩)

/-! ### Two neighbours -/

/-- A text that passes still does with two different neighbours swapped iff these are zero
and nine. -/
lemma luhn_swap_iff (valid : luhn (p ++ a :: b :: q) = true) (differ : a ≠ b) :
    luhn (p ++ b :: a :: q) = true ↔ (a = '0' ∧ b = '9') ∨ (a = '9' ∧ b = '0') := by
  obtain ⟨front, digit, rest⟩ := isDigit_of_luhn_append_cons valid
  obtain ⟨digit', behind⟩ := List.forall_mem_cons.mp rest
  have digits : ∀ d ∈ p ++ b :: a :: q, d.isDigit = true :=
    List.forall_mem_append.mpr
      ⟨front, List.forall_mem_cons.mpr ⟨digit', List.forall_mem_cons.mpr ⟨digit, behind⟩⟩⟩
  have value_iff : ∀ {c d : Char}, c.isDigit = true → d.isDigit = true →
      (digitValue c = digitValue d ↔ c = d) := fun digit digit' =>
    ⟨digitValue_inj digit digit', congrArg digitValue⟩
  have sum := (luhn_iff.mp valid).2
  rw [total_append_cons_cons] at sum
  have swapped := weight_swap_iff (isDoubled q) (digitValue_lt digit) (digitValue_lt digit')
  calc luhn (p ++ b :: a :: q) = true
      ↔ (total q + (weight (isDoubled q) (digitValue a) + weight (!isDoubled q) (digitValue b)) +
          frontTotal (isDoubled q) p) % 10 = 0 := by
        rw [luhn_iff, total_append_cons_cons, and_iff_right digits]
    _ ↔ (weight (isDoubled q) (digitValue a) + weight (!isDoubled q) (digitValue b)) % 10 =
          (weight (isDoubled q) (digitValue b) + weight (!isDoubled q) (digitValue a)) % 10 := by omega
    _ ↔ digitValue a = digitValue b ∨ (digitValue a = 0 ∧ digitValue b = 9) ∨
          (digitValue a = 9 ∧ digitValue b = 0) := swapped
    _ ↔ (a = '0' ∧ b = '9') ∨ (a = '9' ∧ b = '0') := by
        rw [value_iff digit digit', or_iff_right differ]
        have zero : digitValue '0' = 0 := rfl
        have nine : digitValue '9' = 9 := rfl
        rw [← zero, ← nine, value_iff digit rfl, value_iff digit' rfl, value_iff digit rfl, value_iff digit' rfl]

/-- **Typing errors that the check of card numbers detects.** A number that passes does
not with one digit replaced by another character; it does with two different neighbours
swapped iff they are zero and nine. At each place, the last among them, exactly one digit
makes a number pass. -/
theorem luhn_detects :
    (∀ (p q : List Char) (c d : Char), luhn (p ++ c :: q) = true → d ≠ c → luhn (p ++ d :: q) = false) ∧
      (∀ (p q : List Char) (a b : Char), luhn (p ++ a :: b :: q) = true → a ≠ b →
        (luhn (p ++ b :: a :: q) = true ↔ (a = '0' ∧ b = '9') ∨ (a = '9' ∧ b = '0'))) ∧
      ∀ p q : List Char, (∀ c ∈ p, c.isDigit = true) → (∀ c ∈ q, c.isDigit = true) →
        ∃! c, c.isDigit = true ∧ luhn (p ++ c :: q) = true :=
  ⟨fun _ _ _ _ => luhn_replace, fun _ _ _ _ => luhn_swap_iff, fun _ _ => existsUnique_luhn⟩

/-- A number with another last digit, and with two digits swapped; and one in which a zero
and a nine are. -/
theorem luhn_detects_card :
    luhn ("7992739871".toList ++ ['3']) = true ∧ luhn ("7992739871".toList ++ ['2']) = false ∧
      luhn ("7992".toList ++ '7' :: '3' :: "98713".toList) = true ∧
      luhn ("7992".toList ++ '3' :: '7' :: "98713".toList) = false ∧
      luhn ['0', '9', '1'] = true ∧ luhn ['9', '0', '1'] = true ∧
      ∃! c, c.isDigit = true ∧ luhn ("7992739871".toList ++ [c]) = true := by
  obtain ⟨replaced, swapped, only⟩ := luhn_detects
  have valid : luhn ("7992739871".toList ++ ['3']) = true := by decide
  have valid' : luhn ("7992".toList ++ '7' :: '3' :: "98713".toList) = true := by decide
  have zero_nine : luhn ['0', '9', '1'] = true := by decide
  have noticed : luhn ("7992".toList ++ '3' :: '7' :: "98713".toList) = false := by
    rw [← Bool.not_eq_true, swapped _ _ _ _ valid' (by decide)]
    decide
  have unnoticed : luhn ['9', '0', '1'] = true :=
    (swapped [] ['1'] '0' '9' zero_nine (by decide)).mpr (.inl ⟨rfl, rfl⟩)
  have digits : "7992739871".toList.all Char.isDigit = true := by decide
  exact ⟨valid, replaced _ _ _ _ valid (by decide), valid', noticed, zero_nine, unnoticed,
    only _ [] (List.all_eq_true.mp digits) nofun⟩

end Checksum

end RecordRules
