/-
What the check of account numbers says about the number that they write.

The number is never built: the check keeps its remainder modulo 97 and goes on by ten for
a digit and by a hundred for a letter.

* `Shape.TakesOnly`: the characters that a shape takes from a text, for each way of
  putting shapes together;
* `Checksum.accountNumber`: the number that an account number writes, its first four
  characters last and each letter as two digits;
* `Checksum.remainder97?_eq`: the remainder that is kept is the one of that number;
* `Checksum.iban_eq`: an account number passes iff its number leaves one;
* `Checksum.accountNumber_mod_ne`: one character replaced by another of its kind changes
  the remainder;
* `Validator.iban_detects`: both for the validator, on every record.
-/
import Mathlib.Data.Nat.ModEq
import RecordRules.Proofs.Validator.AccountNumber

namespace RecordRules

/-! ### Characters of shapes -/

namespace Shape

variable {p q : Char → Bool} {first second shape : Shape}

/-- All that a shape takes from the start of a text is in a class. -/
def TakesOnly (p : Char → Bool) (shape : Shape) : Prop :=
  ∀ s, ∀ rest ∈ shape s, ∃ front, (∀ c ∈ front, p c = true) ∧ s = front ++ rest

namespace TakesOnly

lemma nothing : TakesOnly p nothing := by
  intro s rest mem
  rw [Shape.nothing, List.mem_singleton] at mem
  exact ⟨[], List.forall_mem_nil _, mem.symm⟩

lemma andThen (h : TakesOnly p first) (h' : TakesOnly p second) :
    TakesOnly p (andThen first second) := by
  intro s rest mem
  obtain ⟨t, taken, later⟩ := List.mem_flatMap.mp mem
  obtain ⟨front, inside, rfl⟩ := h s t taken
  obtain ⟨front', inside', rfl⟩ := h' t rest later
  exact ⟨front ++ front', List.forall_mem_append.mpr ⟨inside, inside'⟩, by rw [List.append_assoc]⟩

lemma optional (h : TakesOnly p shape) : TakesOnly p (optional shape) := by
  intro s rest mem
  rcases List.mem_append.mp mem with taken | none
  · exact h s rest taken
  · exact nothing s rest none

lemma one (sub : ∀ c, q c = true → p c = true) : TakesOnly p (one q) := by
  intro s rest mem
  cases s with
  | nil => cases mem
  | cons c s =>
    rw [Shape.one] at mem
    split at mem
    · next inside =>
      rw [List.mem_singleton] at mem
      exact ⟨[c], List.forall_mem_singleton.mpr (sub c inside), by rw [mem]; rfl⟩
    · cases mem

lemma times (h : TakesOnly p shape) (n : Nat) : TakesOnly p (times n shape) := by
  induction n with
  | zero => exact nothing
  | succ n ih => exact h.andThen ih

lemma atMost (h : TakesOnly p shape) (n : Nat) : TakesOnly p (atMost n shape) := by
  induction n with
  | zero => exact nothing
  | succ n ih => exact (h.andThen ih).optional

lemma between (h : TakesOnly p shape) (least most : Nat) : TakesOnly p (between least most shape) :=
  (h.times least).andThen (h.atMost (most - least))

lemma onceOrMore (h : TakesOnly p shape) : TakesOnly p (onceOrMore shape) :=
  fun s => h.between 1 s.length s

lemma sequence {shapes : List Shape} (h : ∀ shape ∈ shapes, TakesOnly p shape) :
    TakesOnly p (sequence shapes) := by
  induction shapes with
  | nil => exact nothing
  | cons shape shapes ih =>
    obtain ⟨first, others⟩ := List.forall_mem_cons.mp h
    exact first.andThen (ih others)

/-- A text that has the shape is in the class. -/
lemma of_holds (h : TakesOnly p shape) {s : List Char} (holds : holds shape s = true) :
    ∀ c ∈ s, p c = true := by
  obtain ⟨front, inside, rfl⟩ := h s [] (holds_iff.mp holds)
  rwa [List.append_nil]

end TakesOnly

/-- The characters of account numbers: capitals, digits and the space. -/
def isAccountChar (c : Char) : Bool := c.isUpper || Text.isDecimalDigit c || c == ' '

lemma takesOnly_iban : TakesOnly isAccountChar iban := by
  have capital : ∀ c, c.isUpper = true → isAccountChar c = true := fun c h => by simp [isAccountChar, h]
  have digit : ∀ c, Text.isDecimalDigit c = true → isAccountChar c = true := fun c h => by
    simp [isAccountChar, h]
  have space : TakesOnly isAccountChar optionalSpace := .optional (.one fun c h => by simp_all [isAccountChar])
  have either : ∀ c, (c.isUpper || Text.isDecimalDigit c) = true → isAccountChar c = true := fun c h => by
    simp [isAccountChar, h]
  apply TakesOnly.sequence
  simp only [List.forall_mem_cons, List.not_mem_nil, false_imp_iff, implies_true, and_true]
  exact ⟨.times (.one capital) 2, .times (.one digit) 2, space, .times (.one either) 4,
    .onceOrMore (.andThen space (.times (.one digit) 4)), space, .between (.one digit) 1 4⟩

end Shape

namespace Checksum

open Text

variable {c d : Char} {p q s : List Char}

/-! ### The number of an account number -/

/-- What a character counts as: a capital as the two digits of its value, which goes on
from ten, and a digit as itself. -/
def spelled (c : Char) : List Char := if c.isUpper then digitsOf (c.toNat - 'A'.toNat + 10) else [c]

/-- The characters of an account number as they are read: without spaces, and the first
four at the end. -/
def rearranged (s : List Char) : List Char := (s.filter (· ≠ ' ')).drop 4 ++ (s.filter (· ≠ ' ')).take 4

/-- The number that an account number writes. -/
def accountNumber (s : List Char) : Nat := numberOf ((rearranged s).flatMap spelled)

/-- A digit or a capital. -/
def IsReadable (c : Char) : Prop := c.isDigit = true ∨ c.isUpper = true

lemma isUpper_of_isDigit (digit : c.isDigit = true) : c.isUpper = false := by
  rw [← Bool.not_eq_true]
  intro upper
  have bounds := toNat_of_isDigit digit
  have bounds' := toNat_of_isUpper upper
  omega

lemma spelled_of_isDigit (digit : c.isDigit = true) : spelled c = [c] := by
  rw [spelled, isUpper_of_isDigit digit]
  rfl

lemma numberOf_singleton (c : Char) : numberOf [c] = digitValue c := by
  rw [numberOf, numberFrom, List.foldl_cons, List.foldl_nil, Nat.mul_zero, Nat.zero_add]

lemma numberOf_spelled_of_isUpper (upper : c.isUpper = true) :
    numberOf (spelled c) = c.toNat - 'A'.toNat + 10 := by
  rw [spelled, if_pos upper, numberOf_digitsOf]

/-- The value of a character is the number that it is spelled as. -/
lemma alphanumericValue?_eq (readable : IsReadable c) :
    alphanumericValue? c = some (numberOf (spelled c)) := by
  rw [alphanumericValue?]
  rcases readable with digit | upper
  · rw [if_pos digit, spelled_of_isDigit digit, numberOf_singleton]
  · have no_digit : ¬c.isDigit = true := fun digit => by
      rw [isUpper_of_isDigit digit] at upper
      cases upper
    rw [if_neg no_digit, if_pos upper, numberOf_spelled_of_isUpper upper]

lemma length_spelled_of_isUpper (upper : c.isUpper = true) : (spelled c).length = 2 := by
  have capital_a : 'A'.toNat = 65 := rfl
  have bounds := toNat_of_isUpper upper
  rw [spelled, if_pos upper, digitsOf_of_two (by omega) (by omega)]
  rfl

/-- A value from ten on has two digits. -/
lemma length_spelled (readable : IsReadable c) :
    (spelled c).length = if 10 ≤ numberOf (spelled c) then 2 else 1 := by
  rcases readable with digit | upper
  · have small := digitValue_lt digit
    rw [spelled_of_isDigit digit, numberOf_singleton, if_neg (by omega)]
    rfl
  · rw [length_spelled_of_isUpper upper, numberOf_spelled_of_isUpper upper, if_pos (by omega)]

lemma numberOf_spelled_lt (readable : IsReadable c) : numberOf (spelled c) < 36 := by
  rcases readable with digit | upper
  · have small := digitValue_lt digit
    rw [spelled_of_isDigit digit, numberOf_singleton]
    omega
  · have capital_a : 'A'.toNat = 65 := rfl
    have bounds := toNat_of_isUpper upper
    rw [numberOf_spelled_of_isUpper upper]
    omega

/-! ### Remainders -/

/-- One step takes the remainder of a number to that of the number with the digits of one
more character. -/
lemma step97_spelled (readable : IsReadable c) (n : Nat) :
    step97 (n % 97) (numberOf (spelled c)) = numberFrom n (spelled c) % 97 := by
  rw [step97, numberFrom_eq, length_spelled readable]
  split <;> omega

/-- **The remainder that is kept is the one of the number.** -/
theorem remainder97?_eq (readable : ∀ c ∈ s, IsReadable c) (n : Nat) :
    remainder97? (n % 97) s = some (numberFrom n (s.flatMap spelled) % 97) := by
  induction s generalizing n with
  | nil => rfl
  | cons c rest ih =>
    obtain ⟨first, others⟩ := List.forall_mem_cons.mp readable
    rw [remainder97?, alphanumericValue?_eq first, List.flatMap_cons, numberFrom_append]
    dsimp only
    rw [step97_spelled first, ih others]

/-- The characters of an ASCII account number are readable, but for spaces. -/
lemma isReadable_of_iban (shaped : Shape.holds Shape.iban s = true) (ascii : ∀ c ∈ s, c.toNat < 128) :
    ∀ c ∈ rearranged s, IsReadable c := by
  intro c mem
  have kept : c ∈ s.filter (· ≠ ' ') := by
    rcases List.mem_append.mp mem with behind | front
    · exact List.mem_of_mem_drop behind
    · exact List.mem_of_mem_take front
  obtain ⟨there, no_space⟩ := List.mem_filter.mp kept
  have account := Shape.takesOnly_iban.of_holds shaped c there
  simp only [Shape.isAccountChar, Bool.or_eq_true, beq_iff_eq] at account
  rcases account with (upper | digit) | rfl
  · exact .inr upper
  · rw [isDecimalDigit, if_pos (ascii c there)] at digit
    exact .inl digit
  · simp at no_space

/-- No space stands among the first four characters of an account number. -/
lemma four_le_length (shaped : Shape.holds Shape.iban s = true) : 4 ≤ (s.filter (· ≠ ' ')).length := by
  obtain ⟨a, b, c, d, rest, rfl, a_upper, b_upper, c_digit, d_digit⟩ := Shape.exists_of_iban shaped
  simp [ne_space_of_isUpper a_upper, ne_space_of_isUpper b_upper, ne_space_of_isDecimalDigit c_digit,
    ne_space_of_isDecimalDigit d_digit]

/-- **An ASCII account number passes iff its number leaves one.** -/
theorem iban_eq (shaped : Shape.holds Shape.iban s = true) (ascii : ∀ c ∈ s, c.toNat < 128) :
    iban s = .ok (decide (accountNumber s % 97 = 1)) := by
  have divided : splitAtByte? 4 (s.filter (· ≠ ' ')) =
      some ((s.filter (· ≠ ' ')).take 4, (s.filter (· ≠ ' ')).drop 4) :=
    splitAtByte?_of_ascii (fun c mem => ascii c (List.mem_filter.mp mem).1) (four_le_length shaped)
  have remainder : remainder97? 0 (rearranged s) = some (accountNumber s % 97) :=
    remainder97?_eq (isReadable_of_iban shaped ascii) 0
  rw [rearranged] at remainder
  rw [iban, divided]
  dsimp only
  rw [remainder]
  rfl

/-! ### One character replaced -/

/-- Two digits, or two capitals. -/
def SameKind (c d : Char) : Prop :=
  (c.isDigit = true ∧ d.isDigit = true) ∨ (c.isUpper = true ∧ d.isUpper = true)

lemma SameKind.readable (kind : SameKind c d) : IsReadable c ∧ IsReadable d := by
  rcases kind with ⟨digit, digit'⟩ | ⟨upper, upper'⟩
  · exact ⟨.inl digit, .inl digit'⟩
  · exact ⟨.inr upper, .inr upper'⟩

lemma SameKind.length_spelled (kind : SameKind c d) : (spelled c).length = (spelled d).length := by
  rcases kind with ⟨digit, digit'⟩ | ⟨upper, upper'⟩
  · rw [spelled_of_isDigit digit, spelled_of_isDigit digit']
    rfl
  · rw [length_spelled_of_isUpper upper, length_spelled_of_isUpper upper']

lemma IsReadable.ascii (readable : IsReadable c) : c.toNat < 128 := by
  rcases readable with digit | upper
  · have bounds := toNat_of_isDigit digit
    omega
  · exact toNat_lt_of_isUpper upper

lemma IsReadable.ne_space (readable : IsReadable c) : c ≠ ' ' := by
  rintro rfl
  rcases readable with digit | upper
  · cases digit
  · cases upper

/-- Characters of one kind have different values. -/
lemma SameKind.numberOf_inj (kind : SameKind c d) (same : numberOf (spelled c) = numberOf (spelled d)) :
    c = d := by
  rcases kind with ⟨digit, digit'⟩ | ⟨upper, upper'⟩
  · rw [spelled_of_isDigit digit, spelled_of_isDigit digit', numberOf_singleton, numberOf_singleton] at same
    exact digitValue_inj digit digit' same
  · have capital_a : 'A'.toNat = 65 := rfl
    have bounds := toNat_of_isUpper upper
    have bounds' := toNat_of_isUpper upper'
    rw [numberOf_spelled_of_isUpper upper, numberOf_spelled_of_isUpper upper'] at same
    exact Char.toNat_inj.mp (by omega)

/-- Where a character comes to stand when a text is turned does not depend on the
character. -/
lemma exists_turned (n : Nat) (p q : List Char) :
    ∃ x y, ∀ c, (p ++ c :: q).drop n ++ (p ++ c :: q).take n = x ++ c :: y := by
  by_cases front : p.length < n
  · obtain ⟨k, rfl⟩ := Nat.exists_eq_add_of_lt front
    have left : p.length + k + 1 - p.length = k + 1 := by omega
    refine ⟨q.drop k ++ p, q.take k, fun c => ?_⟩
    rw [List.drop_append, List.take_append, left, List.drop_succ_cons, List.take_succ_cons,
      List.drop_of_length_le (by omega), List.take_of_length_le (by omega), List.nil_append,
      List.append_assoc]
  · refine ⟨p.drop n, q ++ p.take n, fun c => ?_⟩
    rw [List.drop_append_of_le_length (by omega), List.take_append_of_le_length (by omega),
      List.append_assoc, List.cons_append]

lemma exists_rearranged (p q : List Char) :
    ∃ x y, ∀ c, c ≠ ' ' → rearranged (p ++ c :: q) = x ++ c :: y := by
  obtain ⟨x, y, place⟩ := exists_turned 4 (p.filter (· ≠ ' ')) (q.filter (· ≠ ' '))
  refine ⟨x, y, fun c other => ?_⟩
  rw [rearranged, List.filter_append, List.filter_cons_of_pos (by simpa using other), place]

/-- **One character replaced by another of its kind changes the remainder.** Their values
differ by less than 97, and the digits behind them only multiply this by tens. -/
theorem accountNumber_mod_ne (kind : SameKind c d) (differ : c ≠ d) :
    accountNumber (p ++ c :: q) % 97 ≠ accountNumber (p ++ d :: q) % 97 := by
  obtain ⟨x, y, place⟩ := exists_rearranged p q
  obtain ⟨readable, readable'⟩ := kind.readable
  have number : ∀ e, IsReadable e → accountNumber (p ++ e :: q) =
      (numberOf (x.flatMap spelled) * 10 ^ (spelled e).length + numberOf (spelled e)) *
        10 ^ (y.flatMap spelled).length + numberOf (y.flatMap spelled) := by
    intro e readable
    rw [accountNumber, place e readable.ne_space, List.flatMap_append, List.flatMap_cons, numberOf,
      numberFrom_append, numberFrom_append, numberFrom_eq _ (y.flatMap spelled),
      numberFrom_eq _ (spelled e)]
    rfl
  intro same
  rw [number c readable, number d readable', ← kind.length_spelled] at same
  have coprime : Nat.Coprime 97 (10 ^ (y.flatMap spelled).length) := Nat.Coprime.pow_right _ (by decide)
  have shifted := Nat.ModEq.cancel_right_of_coprime coprime (Nat.ModEq.add_right_cancel' _ same)
  have values : numberOf (spelled c) ≡ numberOf (spelled d) [MOD 97] := Nat.ModEq.add_left_cancel' _ shifted
  have small := numberOf_spelled_lt readable
  have small' := numberOf_spelled_lt readable'
  exact differ (kind.numberOf_inj (values.eq_of_lt_of_lt (by omega) (by omega)))

end Checksum

/-! ### The validator -/

namespace Validator

variable {surroundings : Surroundings} {field : String} {record : Record} {arguments : List String}
  {s : List Char}

/-- An ASCII text passes iff it has the shape and its number leaves one. -/
lemma check_iban_of_ascii (text : (record.get? field).bind textOf? = some s) (ascii : ∀ c ∈ s, c.toNat < 128) :
    iban.check surroundings field record arguments =
      .ok (Shape.holds Shape.iban s && decide (Checksum.accountNumber s % 97 = 1)) := by
  obtain ⟨value, found, text⟩ := Option.bind_eq_some_iff.mp text
  cases shaped : Shape.holds Shape.iban s with
  | true =>
    rw [check_iban_of_text surroundings field record arguments found text shaped,
      Checksum.iban_eq shaped ascii, Bool.true_and]
  | false =>
    have no_fit : (textOf? value).filter (Shape.holds Shape.iban) = none := by
      rw [text, Option.filter_some, shaped]
      rfl
    rw [check, found]
    cases value with
    | null => cases text
    | string | number | bool | array | object =>
      dsimp only
      rw [no_fit]
      rfl

/-- **What the check of account numbers detects.** An ASCII text passes iff it has the
shape of an account number and the number that it writes, with its first four characters
last and each letter as two digits, leaves 1 modulo 97. One that passes does not with a
digit replaced by another digit, or a capital by another capital. -/
theorem iban_detects (surroundings : Surroundings) (field : String) (arguments : List String) :
    (∀ (record : Record) (s : List Char), (record.get? field).bind textOf? = some s →
        (∀ c ∈ s, c.toNat < 128) →
          iban.check surroundings field record arguments =
            .ok (Shape.holds Shape.iban s && decide (Checksum.accountNumber s % 97 = 1))) ∧
      ∀ (record record' : Record) (p q : List Char) (c d : Char),
        (record.get? field).bind textOf? = some (p ++ c :: q) → (∀ e ∈ p ++ c :: q, e.toNat < 128) →
          iban.check surroundings field record arguments = .ok true →
            (record'.get? field).bind textOf? = some (p ++ d :: q) → Checksum.SameKind c d → c ≠ d →
              iban.check surroundings field record' arguments = .ok false := by
  refine ⟨fun record s text ascii => check_iban_of_ascii text ascii, ?_⟩
  intro record record' p q c d text ascii passed text' kind differ
  have ascii' : ∀ e ∈ p ++ d :: q, e.toNat < 128 := by
    obtain ⟨front, rest⟩ := List.forall_mem_append.mp ascii
    have behind := (List.forall_mem_cons.mp rest).2
    exact List.forall_mem_append.mpr ⟨front, List.forall_mem_cons.mpr ⟨kind.readable.2.ascii, behind⟩⟩
  rw [check_iban_of_ascii text ascii, Except.ok.injEq, Bool.and_eq_true, decide_eq_true_eq] at passed
  have changed := Checksum.accountNumber_mod_ne (p := p) (q := q) kind differ
  rw [passed.2] at changed
  rw [check_iban_of_ascii text' ascii', decide_eq_false changed.symm, Bool.and_false]

/-- A number in groups, and the same with another last digit and with another letter. -/
theorem iban_detects_groups :
    Checksum.accountNumber "GB82 WEST 1234 5698 7654 32".toList = 3214282912345698765432161182 ∧
      iban.check .newYear "f" [("f", .string "GB82 WEST 1234 5698 7654 32")] [] = .ok true ∧
      iban.check .newYear "f" [("f", .string "GB82 WEST 1234 5698 7654 33")] [] = .ok false ∧
      iban.check .newYear "f" [("f", .string "GB82 WAST 1234 5698 7654 32")] [] = .ok false := by
  obtain ⟨accepts, rejects⟩ := iban_detects .newYear "f" []
  have number : Checksum.accountNumber "GB82 WEST 1234 5698 7654 32".toList = 3214282912345698765432161182 := by
    decide +kernel
  have shaped : Shape.holds Shape.iban "GB82 WEST 1234 5698 7654 32".toList = true := by decide +kernel
  have ascii : ∀ c ∈ "GB82 WEST 1234 5698 7654 32".toList, c.toNat < 128 :=
    List.forall_iff_forall_mem.mp (by decide)
  have passed : iban.check .newYear "f" [("f", .string "GB82 WEST 1234 5698 7654 32")] [] = .ok true := by
    rw [accepts _ _ rfl ascii, shaped, number]
    rfl
  refine ⟨number, passed, ?_, ?_⟩
  · exact rejects _ _ "GB82 WEST 1234 5698 7654 3".toList [] '2' '3' rfl ascii passed rfl
      (.inl ⟨rfl, rfl⟩) (by decide)
  · exact rejects _ _ "GB82 W".toList "ST 1234 5698 7654 32".toList 'E' 'A' rfl ascii passed rfl
      (.inr ⟨rfl, rfl⟩) (by decide)

end Validator

end RecordRules
