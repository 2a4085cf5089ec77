/-
Which account numbers get an answer.

The shape of an account number has two decimal digits after two capitals, and these may
be digits of any script. The check then divides the text behind four bytes, which is
behind the two digits only if both are ASCII digits.

* `Shape.mem_times_one_iff`, `Shape.mem_sequence_cons_iff`: what a shape leaves over;
* `Shape.exists_of_iban`: the four characters at the start of an account number;
* `Checksum.exists_iban_iff`: the check has an answer iff the first digit has two bytes,
  or each of them has one;
* `Validator.iban_answers_iff`: this for the validator, on every record.
-/
import RecordRules.Proofs.Text.ByteOffsets
import RecordRules.Proofs.Decimal.Digits
import RecordRules.Validator.Basic

namespace RecordRules

/-! ### Shapes -/

namespace Shape

variable {s rest : List Char}

/-- Characters of a class, one after another. -/
lemma mem_times_one_iff {p : Char → Bool} {n : Nat} :
    rest ∈ times n (one p) s ↔
      ∃ front, front.length = n ∧ (∀ c ∈ front, p c = true) ∧ s = front ++ rest := by
  induction n generalizing s with
  | zero =>
    rw [times, nothing, List.mem_singleton]
    constructor
    · rintro rfl
      exact ⟨[], rfl, nofun, rfl⟩
    · rintro ⟨front, none, -, rfl⟩
      rw [List.eq_nil_of_length_eq_zero none, List.nil_append]
  | succ n ih =>
    rw [times, andThen, List.mem_flatMap]
    constructor
    · rintro ⟨t, first, more⟩
      obtain ⟨front, length, inside, rfl⟩ := ih.mp more
      cases s with
      | nil => cases first
      | cons c s =>
        rw [one] at first
        split at first
        · next inside_first =>
          rw [List.mem_singleton] at first
          refine ⟨c :: front, by rw [List.length_cons, length], ?_, by rw [← first, List.cons_append]⟩
          exact List.forall_mem_cons.mpr ⟨inside_first, inside⟩
        · cases first
    · rintro ⟨front, length, inside, rfl⟩
      obtain ⟨c, front, rfl⟩ := List.exists_cons_of_length_eq_add_one length
      obtain ⟨inside_first, inside⟩ := List.forall_mem_cons.mp inside
      refine ⟨front ++ rest, ?_, ih.mpr ⟨front, Nat.succ.inj length, inside, rfl⟩⟩
      rw [List.cons_append, one, if_pos inside_first]
      exact List.mem_singleton_self _

/-- The first shape of a sequence leaves over what the others begin with. -/
lemma mem_sequence_cons_iff {first : Shape} {others : List Shape} :
    rest ∈ sequence (first :: others) s ↔ ∃ t ∈ first s, rest ∈ sequence others t := by
  rw [sequence, andThen, List.mem_flatMap]

lemma holds_iff {shape : Shape} : holds shape s = true ↔ [] ∈ shape s := by
  rw [holds, List.contains_iff_mem]

/-- An account number begins with two capitals and two digits. -/
lemma exists_of_iban (h : holds iban s = true) :
    ∃ a b c d rest, s = a :: b :: c :: d :: rest ∧ a.isUpper = true ∧ b.isUpper = true ∧
      Text.isDecimalDigit c = true ∧ Text.isDecimalDigit d = true := by
  rw [holds_iff, iban, mem_sequence_cons_iff] at h
  obtain ⟨t, capitals, h⟩ := h
  obtain ⟨t', digits, -⟩ := mem_sequence_cons_iff.mp h
  obtain ⟨front, two, upper, rfl⟩ := mem_times_one_iff.mp capitals
  obtain ⟨front', two', digit, rfl⟩ := mem_times_one_iff.mp digits
  obtain ⟨a, b, rfl⟩ := List.length_eq_two.mp two
  obtain ⟨c, d, rfl⟩ := List.length_eq_two.mp two'
  exact ⟨a, b, c, d, t', rfl, upper a (by simp), upper b (by simp), digit c (by simp),
    digit d (by simp)⟩

end Shape

/-! ### The check -/

namespace Checksum

open Text

variable {a b c d : Char} {s rest : List Char}

/-- A text that begins with two characters of one byte is divided behind four bytes iff
these end with its third character, or with its fourth. -/
lemma isSome_splitAtByte?_four (a_size : a.utf8Size = 1) (b_size : b.utf8Size = 1) :
    (splitAtByte? 4 (a :: b :: c :: d :: rest)).isSome = true ↔
      c.utf8Size = 2 ∨ (c.utf8Size = 1 ∧ d.utf8Size = 1) := by
  have two_left : (splitAtByte? 4 (a :: b :: c :: d :: rest)).isSome =
      (splitAtByte? 2 (c :: d :: rest)).isSome := by
    rw [isSome_splitAtByte?_cons, a_size, isSome_splitAtByte?_cons, b_size]
    rfl
  have c_pos := c.utf8Size_pos
  have d_pos := d.utf8Size_pos
  rw [two_left, isSome_splitAtByte?_cons, Bool.and_eq_true, decide_eq_true_eq]
  by_cases c_size : c.utf8Size = 1
  · rw [c_size, isSome_splitAtByte?_cons, Bool.and_eq_true, decide_eq_true_eq]
    constructor
    · rintro ⟨-, d_fits, -⟩
      omega
    · intro sizes
      have d_size : d.utf8Size = 1 := by omega
      rw [d_size, splitAtByte?]
      exact ⟨by omega, by omega, rfl⟩
  · constructor
    · rintro ⟨c_fits, -⟩
      omega
    · intro sizes
      have c_two : c.utf8Size = 2 := by omega
      rw [c_two, splitAtByte?]
      exact ⟨Nat.le_refl 2, rfl⟩

lemma toNat_of_isUpper (upper : c.isUpper = true) : 65 ≤ c.toNat ∧ c.toNat ≤ 90 := by
  have bounds : c.val ≥ 'A'.val ∧ c.val ≤ 'Z'.val := of_decide_eq_true upper
  exact ⟨UInt32.le_iff_toNat_le.mp bounds.1, UInt32.le_iff_toNat_le.mp bounds.2⟩

lemma toNat_lt_of_isUpper (upper : c.isUpper = true) : c.toNat < 128 :=
  Nat.lt_of_le_of_lt (toNat_of_isUpper upper).2 (by decide)

lemma ne_space_of_isUpper (upper : c.isUpper = true) : c ≠ ' ' := by
  rintro rfl
  revert upper
  decide

lemma ne_space_of_isDecimalDigit (digit : isDecimalDigit c = true) : c ≠ ' ' := by
  rintro rfl
  revert digit
  decide

/-- The check of an account number has an answer iff its first digit has two bytes, or
both digits have one. -/
lemma exists_iban_iff (a_upper : a.isUpper = true) (b_upper : b.isUpper = true)
    (c_digit : isDecimalDigit c = true) (d_digit : isDecimalDigit d = true) :
    (∃ answer, iban (a :: b :: c :: d :: rest) = .ok answer) ↔
      c.utf8Size = 2 ∨ (c.utf8Size = 1 ∧ d.utf8Size = 1) := by
  -- no space stands among the first four characters
  have compact : (a :: b :: c :: d :: rest).filter (· ≠ ' ') =
      a :: b :: c :: d :: rest.filter (· ≠ ' ') := by
    simp [ne_space_of_isUpper a_upper, ne_space_of_isUpper b_upper,
      ne_space_of_isDecimalDigit c_digit, ne_space_of_isDecimalDigit d_digit]
  rw [← isSome_splitAtByte?_four (utf8Size_of_ascii (toNat_lt_of_isUpper a_upper))
    (utf8Size_of_ascii (toNat_lt_of_isUpper b_upper)), iban, compact]
  cases splitAtByte? 4 (a :: b :: c :: d :: rest.filter (· ≠ ' ')) with
  | none => simp
  | some parts => simp

/-- All that the check can fail with. -/
lemma eq_insideCharacter_of_iban {e : Fault} (failed : iban s = .error e) : e = .insideCharacter := by
  rw [iban] at failed
  split at failed
  · exact (Except.error.inj failed).symm
  · cases failed

end Checksum

/-! ### The validator -/

namespace Validator

section

variable (surroundings : Surroundings) (field : String) (record : Record) (arguments : List String)

/-- The text of a value that has the shape is checked. -/
lemma check_iban_of_text {value : Json} {s : List Char} (found : record.get? field = some value)
    (text : textOf? value = some s) (shaped : Shape.holds Shape.iban s = true) :
    iban.check surroundings field record arguments = Checksum.iban s := by
  have fits : (textOf? value).filter (Shape.holds Shape.iban) = some s := by
    rw [text, Option.filter_some, if_pos shaped]
  rw [check, found]
  cases value with
  | null => cases text
  | string | number | bool | array | object =>
    dsimp only
    rw [fits]

/-- A field without such a text is answered for at once. -/
lemma exists_check_iban_of_no_text
    (none_fits : ∀ value ∈ record.get? field, ∀ s, textOf? value = some s →
      Shape.holds Shape.iban s = false) :
    ∃ answer, iban.check surroundings field record arguments = .ok answer := by
  rw [check]
  cases found : record.get? field with
  | none => exact ⟨true, rfl⟩
  | some value =>
    have no_text : (textOf? value).filter (Shape.holds Shape.iban) = none := by
      rw [Option.filter_eq_none_iff]
      intro s text
      rw [none_fits value found s text]
      decide
    cases value with
    | null => exact ⟨true, rfl⟩
    | string | number | bool | array | object =>
      dsimp only
      rw [no_text]
      exact ⟨false, rfl⟩

end

/-- **When the account number is answered for.** The validator has an answer for a field
of a record iff in a text of the shape of an account number the first of the two digits
has two bytes, or both have one, as ASCII digits do. It does not fail in another way than
by dividing such a text inside a digit. -/
theorem iban_answers_iff (surroundings : Surroundings) (field : String) (record : Record)
    (arguments : List String) :
    ((∃ answer, iban.check surroundings field record arguments = .ok answer) ↔
        ∀ value ∈ record.get? field, ∀ a b c d rest, textOf? value = some (a :: b :: c :: d :: rest) →
          Shape.holds Shape.iban (a :: b :: c :: d :: rest) = true →
            c.utf8Size = 2 ∨ (c.utf8Size = 1 ∧ d.utf8Size = 1)) ∧
      ∀ fault, iban.check surroundings field record arguments = .error fault →
        fault = .insideCharacter := by
  by_cases none_fits : ∀ value ∈ record.get? field, ∀ s, textOf? value = some s →
      Shape.holds Shape.iban s = false
  · obtain ⟨answer, answered⟩ :=
      exists_check_iban_of_no_text surroundings field record arguments none_fits
    rw [answered]
    refine ⟨⟨fun _ value found a b c d rest text shaped => ?_, fun _ => ⟨answer, rfl⟩⟩, nofun⟩
    rw [none_fits value found _ text] at shaped
    cases shaped
  · push Not at none_fits
    obtain ⟨value, found, s, text, shaped⟩ := none_fits
    rw [ne_eq, Bool.not_eq_false] at shaped
    rw [check_iban_of_text surroundings field record arguments found text shaped]
    refine ⟨?_, fun fault failed => Checksum.eq_insideCharacter_of_iban failed⟩
    obtain ⟨a, b, c, d, rest, rfl, a_upper, b_upper, c_digit, d_digit⟩ := Shape.exists_of_iban shaped
    rw [Checksum.exists_iban_iff a_upper b_upper c_digit d_digit]
    constructor
    · intro sizes value' found' a' b' c' d' rest' text' _
      obtain rfl := Option.mem_unique found found'
      rw [text] at text'
      cases text'
      exact sizes
    · intro sizes
      exact sizes value found a b c d rest text shaped

/-- Digits of two bytes, and ASCII digits in groups. -/
theorem iban_answers_iff_digits :
    (∃ answer, iban.check .newYear "account"
        [("account", .string "GB\u0668\u0662WEST12345698765432")] [] = .ok answer) ∧
      iban.check .newYear "account" [("account", .string "GB82 WEST 1234 5698 7654 32")] [] =
        .ok true := by
  constructor
  · refine (iban_answers_iff .newYear "account" _ []).1.mpr fun value found a b c d rest text _ => ?_
    cases found
    cases text
    exact .inl rfl
  · decide +kernel

/-- An account number whose second digit has two bytes and whose first has one. -/
lemma holds_iban_arabicTwo : Shape.holds Shape.iban
    ['G', 'B', '8', '\u0662', 'W', 'E', 'S', 'T', '1', '2', '3', '4', '5'] = true := by
  have capitals : ∀ c ∈ ['G', 'B'], c.isUpper = true := List.all_eq_true.mp rfl
  have digits : ∀ c ∈ ['8', '\u0662'], Text.isDecimalDigit c = true :=
    List.forall_mem_cons.mpr ⟨by decide, List.forall_mem_singleton.mpr isDecimalDigit_arabicTwo⟩
  rw [Shape.holds_iff, Shape.iban, Shape.mem_sequence_cons_iff]
  refine ⟨_, Shape.mem_times_one_iff.mpr ⟨['G', 'B'], rfl, capitals, rfl⟩, ?_⟩
  rw [Shape.mem_sequence_cons_iff]
  refine ⟨_, Shape.mem_times_one_iff.mpr ⟨['8', '\u0662'], rfl, digits, rfl⟩, ?_⟩
  decide +kernel

/-- Behind four bytes there is the middle of the second digit. -/
theorem not_iban_answers :
    iban.check .newYear "account" [("account", .string "GB8\u0662WEST12345")] [] =
        .error .insideCharacter ∧
      ¬ ∀ (surroundings : Surroundings) (field : String) (record : Record) (arguments : List String),
        ∃ answer, iban.check surroundings field record arguments = .ok answer := by
  have failed : iban.check .newYear "account" [("account", .string "GB8\u0662WEST12345")] [] =
      .error .insideCharacter := by
    have text : textOf? (.string "GB8\u0662WEST12345") =
        some ['G', 'B', '8', '\u0662', 'W', 'E', 'S', 'T', '1', '2', '3', '4', '5'] := by
      decide +kernel
    rw [check_iban_of_text .newYear "account" [("account", _)] [] rfl text holds_iban_arabicTwo]
    decide +kernel
  refine ⟨failed, fun all => ?_⟩
  obtain ⟨answer, answered⟩ := all .newYear "account" _ []
  rw [failed] at answered
  cases answered

end Validator

end RecordRules
