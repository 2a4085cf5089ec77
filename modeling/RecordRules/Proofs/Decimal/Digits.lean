/-
Signs and digits in texts.

* `isDigit_of_mem_digitsOf`, `digitsOf_ne_nil`: how numbers are written;
* `digitValue_lt`, `digitValue_inj`: the values of digits;
* `numberFrom_eq`: the number that digits write behind another number;
* `isDecimalDigit_of_isDigit`, `isDecimalDigit_of_mem_numberMarks`: which ASCII
  characters are among the digits of any script;
* `isDecimalDigit_arabicTwo`: a digit that is no ASCII character;
* `SignText`: a sign, or none, as it stands before digits; `Shape.takeSign` takes it
  off (`Shape.takeSign_append`, `Shape.exists_signText`);
* `not_isDigit_of_isBlank`: white space is no digit.
-/
import RecordRules.Decimal.Digits
import RecordRules.Validator.Shape
import RecordRules.Proofs.Text.LowerCase
import Mathlib.Algebra.Group.Nat.Defs
import Mathlib.Data.List.Basic

namespace RecordRules

/-! ### Digits -/

lemma isDigit_digitChar {d : Nat} (h : d < 10) : (digitChar d).isDigit = true := by
  have all : ∀ e ∈ List.range 10, (digitChar e).isDigit = true := by decide
  exact all d (List.mem_range.mpr h)

lemma digitsOf_ne_nil (n : Nat) : digitsOf n ≠ [] := by
  rw [digitsOf]
  split <;> simp

lemma isDigit_of_mem_digitsOf {n : Nat} : ∀ c ∈ digitsOf n, c.isDigit = true := by
  induction n using Nat.strongRecOn with
  | _ n ih =>
    rw [digitsOf]
    split
    · next small => exact List.forall_mem_singleton.mpr (isDigit_digitChar small)
    · next large =>
      have last : (digitChar (n % 10)).isDigit = true := isDigit_digitChar (by omega)
      exact List.forall_mem_append.mpr ⟨ih (n / 10) (by omega), List.forall_mem_singleton.mpr last⟩

lemma toNat_of_isDigit {c : Char} (digit : c.isDigit = true) : 48 ≤ c.toNat ∧ c.toNat ≤ 57 := by
  have bounds : c.val ≥ '0'.val ∧ c.val ≤ '9'.val := by
    rwa [Char.isDigit, Bool.and_eq_true, decide_eq_true_eq, decide_eq_true_eq] at digit
  exact ⟨UInt32.le_iff_toNat_le.mp bounds.1, UInt32.le_iff_toNat_le.mp bounds.2⟩

lemma digitValue_lt {c : Char} (digit : c.isDigit = true) : digitValue c < 10 := by
  have zero : '0'.toNat = 48 := rfl
  have bounds := toNat_of_isDigit digit
  rw [digitValue]
  omega

lemma digitValue_inj {c d : Char} (digit : c.isDigit = true) (digit' : d.isDigit = true)
    (same : digitValue c = digitValue d) : c = d := by
  have zero : '0'.toNat = 48 := rfl
  have bounds := toNat_of_isDigit digit
  have bounds' := toNat_of_isDigit digit'
  rw [digitValue, digitValue] at same
  exact Char.toNat_inj.mp (by omega)

lemma not_isDigit_of_isBlank {c : Char} (blank : Text.isBlank c = true) : c.isDigit = false := by
  rw [← Bool.not_eq_true]
  intro digit
  have bounds := toNat_of_isDigit digit
  simp only [Text.isBlank, Bool.or_eq_true, Bool.and_eq_true, decide_eq_true_eq, beq_iff_eq] at blank
  omega

lemma isDecimalDigit_of_isDigit {c : Char} (digit : c.isDigit = true) : Text.isDecimalDigit c = true := by
  have ascii : c.toNat < 128 := by
    have bounds := toNat_of_isDigit digit
    omega
  rw [Text.isDecimalDigit, if_pos ascii, digit]

/-- The characters of numbers that are no digits. -/
def numberMarks : List Char := ['+', '-', '.', 'e', 'E']

lemma isDecimalDigit_of_mem_numberMarks {c : Char} (mark : c ∈ numberMarks) : Text.isDecimalDigit c = false := by
  have none_digit : numberMarks.all (fun d => !Text.isDecimalDigit d) = true := by decide
  rw [← Bool.not_eq_true']
  exact List.all_eq_true.mp none_digit c mark

/-- Digits do not begin with a sign. -/
lemma head?_ne_sign {digits : List Char} (all : ∀ c ∈ digits, Text.isDecimalDigit c = true) :
    ∀ c ∈ digits.head?, c ≠ '+' ∧ c ≠ '-' := by
  intro c first
  have digit := all c (List.mem_of_head? first)
  constructor <;> (rintro rfl; revert digit; decide)

/-! ### Numbers -/

lemma numberFrom_append (n : Nat) (a b : List Char) : numberFrom n (a ++ b) = numberFrom (numberFrom n a) b :=
  List.foldl_append

/-- The digits behind a number move it to the left by their count. -/
lemma numberFrom_eq (n : Nat) (digits : List Char) :
    numberFrom n digits = n * 10 ^ digits.length + numberOf digits := by
  induction digits generalizing n with
  | nil => simp [numberOf, numberFrom]
  | cons c rest ih =>
    have first : ∀ m, numberFrom m (c :: rest) = numberFrom (10 * m + digitValue c) rest := fun m => rfl
    have shifted : 10 * n * 10 ^ rest.length = n * 10 ^ (rest.length + 1) := by
      rw [Nat.pow_succ, Nat.mul_comm 10 n, Nat.mul_assoc, Nat.mul_comm 10]
    rw [numberOf, first, first, ih, ih (10 * 0 + digitValue c), List.length_cons, Nat.add_mul, shifted,
      Nat.mul_zero, Nat.zero_add, Nat.add_assoc]

lemma digitsOf_of_two {n : Nat} (large : 10 ≤ n) (small : n < 100) :
    digitsOf n = [digitChar (n / 10), digitChar (n % 10)] := by
  rw [digitsOf, if_neg (by omega), digitsOf, if_pos (by omega)]
  rfl

/-! ### Digits of other scripts -/

/-- Reading a table text from its end, line by line: what the other lines are read as is
left open until the last one. -/
lemma tableWords_eq_append {line : List Char} {lines : List String} {words : List (List Char)}
    (others : tableWords lines = words) :
    tableWords (String.ofList line :: lines) = (splitChars ' ' line).filter (· ≠ []) ++ words := by
  rw [Text.tableWords_cons, others]

/-- The label of a code point in a table text, by the words of the text. -/
lemma CodeRuns.label_ofLines {lines : List String} {words : List (List Char)} {n : Nat} {label : String}
    (read : tableWords lines = words)
    (found : CodeRuns.label ⟨(words.map fun word => (hexNumber (word.takeWhile (· ≠ '.')),
      String.ofList ((word.dropWhile (· ≠ '.')).drop 1))).toArray⟩ n = label) :
    (CodeRuns.ofLines lines).label n = label := by
  rw [CodeRuns.ofLines, read, found]

/-- The Arabic-Indic digit two is a decimal digit. -/
lemma isDecimalDigit_arabicTwo : Text.isDecimalDigit '\u0662' = true := by
  have category : Text.generalCategory '\u0662' = "Nd" := by
    rw [Text.generalCategory, categoryRuns]
    dsimp only
    apply CodeRuns.label_ofLines
    case read =>
      repeat apply tableWords_eq_append
      rfl
    case found => decide +kernel
  rw [Text.isDecimalDigit, if_neg (by decide), category]
  rfl

/-! ### Signs -/

/-- The sign of a number and how it is written: a positive number may have none. -/
inductive SignText : Bool → List Char → Prop where
  | none : SignText false []
  | plus : SignText false ['+']
  | minus : SignText true ['-']

namespace Shape

variable {negative : Bool} {s sign rest : List Char}

lemma takeSign_of_ne (not_minus : ∀ rest, s ≠ '-' :: rest) (not_plus : ∀ rest, s ≠ '+' :: rest) :
    takeSign s = (false, s) := by
  rw [takeSign.eq_def]
  split
  · next rest => exact absurd rfl (not_minus rest)
  · next rest => exact absurd rfl (not_plus rest)
  · rfl

/-- A sign is taken off what stands behind it, unless that has a sign of its own. -/
lemma takeSign_append (written : SignText negative sign) (bare : ∀ c ∈ rest.head?, c ≠ '+' ∧ c ≠ '-') :
    takeSign (sign ++ rest) = (negative, rest) := by
  cases written with
  | none =>
    refine takeSign_of_ne ?_ ?_
    · rintro more rfl
      exact absurd rfl (bare '-' rfl).2
    · rintro more rfl
      exact absurd rfl (bare '+' rfl).1
  | plus | minus => rfl

/-- What is taken off a text is a sign. -/
lemma exists_signText (s : List Char) : ∃ sign, SignText (takeSign s).1 sign ∧ sign ++ (takeSign s).2 = s := by
  rw [takeSign.eq_def]
  split
  · exact ⟨_, .minus, rfl⟩
  · exact ⟨_, .plus, rfl⟩
  · exact ⟨_, .none, rfl⟩

end Shape

end RecordRules
