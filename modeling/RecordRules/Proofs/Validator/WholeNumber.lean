/-
Whole numbers in texts: what the sanitizer makes of those that the validator accepts.

* `WritesInteger`: the integer that a text writes with digits behind an optional sign;
* `readInteger?_eq_some_iff`: it is read if it fits into 64 bits;
* `Sanitizer.leadingInteger_of_signText`: the integer at the start of a text of which a
  sign and digits are left when it is trimmed. The digits are read without the sign, so
  that those of the least integer are one too many;
* `Validator.integer_kept_iff`: a text that is accepted is cast to the integer that it
  writes, unless that is the least one; what values are cast to is accepted.
-/
import RecordRules.Proofs.Decimal.Digits
import RecordRules.Proofs.Engine.Settling

namespace RecordRules

/-! ### Integers in texts -/

/-- The integer of a sign and digits. -/
def signedNumber (negative : Bool) (digits : List Char) : Int :=
  if negative then -(numberOf digits : Int) else numberOf digits

/-- A text that is an optional sign and one or more digits, and the integer that it
writes. -/
inductive WritesInteger : List Char → Int → Prop where
  | mk {negative : Bool} {sign digits : List Char} (signed : SignText negative sign) (some_digit : digits ≠ [])
      (all : ∀ c ∈ digits, c.isDigit = true) : WritesInteger (sign ++ digits) (signedNumber negative digits)

variable {negative : Bool} {s sign digits : List Char} {n m : Int}

/-- A text writes at most one integer. -/
lemma WritesInteger.unique (h : WritesInteger s n) (h' : WritesInteger s m) : m = n := by
  have taken : ∀ {k}, WritesInteger s k → k = signedNumber (Shape.takeSign s).1 (Shape.takeSign s).2 := by
    rintro k ⟨signed, some_digit, all⟩
    rw [Shape.takeSign_append signed (head?_ne_sign fun c mem => isDecimalDigit_of_isDigit (all c mem))]
  rw [taken h, taken h']

/-- The largest number that 64 bits hold with a sign. -/
def signedMax (negative : Bool) : Nat := if negative then 9223372036854775808 else 9223372036854775807

lemma signedNumber_bounds_iff :
    JsonNumber.int64Min ≤ signedNumber negative digits ∧ signedNumber negative digits ≤ JsonNumber.int64Max ↔
      numberOf digits ≤ signedMax negative := by
  rw [signedNumber, signedMax, JsonNumber.int64Min, JsonNumber.int64Max]
  split <;> omega

/-- What is read of a text is the number of its digits behind the sign. -/
lemma readInteger?_eq (s : List Char) :
    readInteger? s =
      if (Shape.takeSign s).2 ≠ [] ∧ (Shape.takeSign s).2.all Char.isDigit ∧
          numberOf (Shape.takeSign s).2 ≤ signedMax (Shape.takeSign s).1 then
        some (signedNumber (Shape.takeSign s).1 (Shape.takeSign s).2)
      else none := by
  have natural : ∀ digits : List Char,
      (if digits ≠ [] ∧ digits.all Char.isDigit ∧ numberOf digits ≤ signedMax false then
        some (numberOf digits) else none).map Int.ofNat =
        if digits ≠ [] ∧ digits.all Char.isDigit ∧ numberOf digits ≤ signedMax false then
          some (signedNumber false digits) else none := by
    intro digits
    split <;> rfl
  rw [readInteger?.eq_def]
  split
  · rfl
  · next not_minus =>
    dsimp only [readNatural?]
    split
    · exact natural _
    · next not_plus =>
      rw [Shape.takeSign_of_ne not_minus not_plus]
      exact natural s

/-- An integer is read iff the text writes it and it fits into 64 bits. -/
theorem readInteger?_eq_some_iff :
    readInteger? s = some n ↔ WritesInteger s n ∧ JsonNumber.int64Min ≤ n ∧ n ≤ JsonNumber.int64Max := by
  rw [readInteger?_eq, Option.ite_none_right_eq_some, Option.some.injEq]
  constructor
  · rintro ⟨⟨some_digit, all, fits⟩, rfl⟩
    obtain ⟨sign, signed, parts⟩ := Shape.exists_signText s
    have writes : WritesInteger (sign ++ (Shape.takeSign s).2) _ := .mk signed some_digit (List.all_eq_true.mp all)
    rw [parts] at writes
    exact ⟨writes, signedNumber_bounds_iff.mpr fits⟩
  · rintro ⟨⟨signed, some_digit, all⟩, bounds⟩
    rw [Shape.takeSign_append signed (head?_ne_sign fun c mem => isDecimalDigit_of_isDigit (all c mem))]
    exact ⟨⟨some_digit, List.all_eq_true.mpr all, signedNumber_bounds_iff.mp bounds⟩, rfl⟩

/-! ### The integer at the start of a text -/

namespace Sanitizer

/-- Digits with white space behind them, read without a sign. -/
lemma leadingMagnitude_append {blanks : List Char} (all : ∀ c ∈ digits, c.isDigit = true)
    (blank : blanks.all Text.isBlank = true) :
    leadingMagnitude (digits ++ blanks) =
      if numberOf digits ≤ signedMax false then (numberOf digits : Int) else 0 := by
  have outside : Text.StartsOutside Char.isDigit blanks := fun c first =>
    not_isDigit_of_isBlank (List.all_eq_true.mp blank c (List.mem_of_head? first))
  have limit_iff : (numberOf digits : Int) ≤ JsonNumber.int64Max ↔ numberOf digits ≤ signedMax false := by
    rw [JsonNumber.int64Max, signedMax, if_neg Bool.false_ne_true]
    omega
  rw [leadingMagnitude, outside.takeWhile_append all]
  simp only [limit_iff]

/-- The sign is taken off before the digits are read. -/
lemma leadingInteger_eq (s : List Char) :
    leadingInteger s =
      if (Shape.takeSign (Text.trimLeft s)).1 then -leadingMagnitude (Shape.takeSign (Text.trimLeft s)).2
      else leadingMagnitude (Shape.takeSign (Text.trimLeft s)).2 := by
  rw [leadingInteger]
  generalize Text.trimLeft s = t
  split
  · rfl
  · rfl
  · next not_minus not_plus =>
    rw [Shape.takeSign_of_ne not_minus not_plus]
    rfl

/-- The integer at the start of a text is the one that the trimmed text writes, as far as
its digits fit without the sign. -/
lemma leadingInteger_of_signText (signed : SignText negative sign) (some_digit : digits ≠ [])
    (all : ∀ c ∈ digits, c.isDigit = true) (trimmed : Text.trim s = sign ++ digits) :
    leadingInteger s = if numberOf digits ≤ signedMax false then signedNumber negative digits else 0 := by
  -- white space that is trimmed at the end is there when the digits are read
  obtain ⟨blanks, blank, parts⟩ := Text.exists_eq_dropRightWhile_append Text.isBlank (s.dropWhile Text.isBlank)
  have rest : Text.trimLeft s = sign ++ (digits ++ blanks) := by
    rw [← List.append_assoc, ← trimmed]
    exact parts
  have bare : ∀ c ∈ (digits ++ blanks).head?, c ≠ '+' ∧ c ≠ '-' := by
    rw [List.head?_append_of_ne_nil _ some_digit]
    exact head?_ne_sign fun c mem => isDecimalDigit_of_isDigit (all c mem)
  rw [leadingInteger_eq, rest, Shape.takeSign_append signed bare, leadingMagnitude_append all blank, signedNumber]
  split <;> split <;> simp

/-- A text whose integer fits into 64 bits is cast to it, unless it is the least one. -/
lemma castInteger_eq_iff {s : String} (writes : WritesInteger (Text.trim s.toList) n)
    (least : JsonNumber.int64Min ≤ n) (greatest : n ≤ JsonNumber.int64Max) :
    castInteger (.string s) = n ↔ n ≠ JsonNumber.int64Min := by
  generalize trimmed : Text.trim s.toList = t at writes
  obtain @⟨negative, sign, digits, signed, some_digit, all⟩ := writes
  have fits_iff : numberOf digits ≤ signedMax false ↔ signedNumber negative digits ≠ JsonNumber.int64Min := by
    have limit := signedNumber_bounds_iff.mp ⟨least, greatest⟩
    cases negative <;> simp [signedNumber, signedMax, JsonNumber.int64Min] at limit ⊢ <;> omega
  rw [castInteger, leadingInteger_of_signText signed some_digit all trimmed, ← fits_iff]
  split
  · next fits => exact iff_of_true rfl fits
  · next large =>
    have is_least : signedNumber negative digits = JsonNumber.int64Min := not_not.mp (mt fits_iff.mpr large)
    rw [is_least]
    exact iff_of_false (by decide) large

end Sanitizer

/-! ### The two rules -/

namespace Validator

/-- A text passes as an integer only if it writes one of 64 bits. -/
lemma exists_of_check_integer {surroundings : Surroundings} {field : String} {record : Record}
    {arguments : List String} {s : String} (found : record.get? field = some (.string s))
    (accepted : integer.check surroundings field record arguments = .ok true) :
    ∃ n, WritesInteger (Text.trim s.toList) n ∧ JsonNumber.int64Min ≤ n ∧ n ≤ JsonNumber.int64Max := by
  have passed : isInteger s.toList = true := by
    rw [check, found] at accepted
    exact Except.ok.inj accepted
  rw [isInteger, Bool.and_eq_true] at passed
  obtain ⟨n, read⟩ := Option.isSome_iff_exists.mp passed.2
  exact ⟨n, readInteger?_eq_some_iff.mp read⟩

/-- **Casting keeps what is accepted.** A text that the validator accepts writes one
integer of 64 bits when it is trimmed, and the sanitizer casts the text to it iff it is
not the least one. What any value is cast to is an integer of 64 bits, and the validator
accepts it. -/
theorem integer_kept_iff (surroundings : Surroundings) (field : String) (arguments options : List String) :
    (∀ (record : Record) (s : String), record.get? field = some (.string s) →
      integer.check surroundings field record arguments = .ok true →
        ∃ n, (∀ m, WritesInteger (Text.trim s.toList) m ↔ m = n) ∧
          JsonNumber.int64Min ≤ n ∧ n ≤ JsonNumber.int64Max ∧
          (Sanitizer.integer.apply (.string s) options = .ok (.number (.integer n)) ↔ n ≠ JsonNumber.int64Min)) ∧
      ∀ value, ∃ n, Sanitizer.integer.apply value options = .ok (.number (.integer n)) ∧
        JsonNumber.int64Min ≤ n ∧ n ≤ JsonNumber.int64Max ∧
        ∀ record : Record, record.get? field = some (.number (.integer n)) →
          integer.check surroundings field record arguments = .ok true := by
  constructor
  · intro record s found accepted
    obtain ⟨n, writes, least, greatest⟩ := exists_of_check_integer found accepted
    refine ⟨n, fun m => ⟨writes.unique, fun same => same ▸ writes⟩, least, greatest, ?_⟩
    rw [← Sanitizer.castInteger_eq_iff writes least greatest, Sanitizer.apply, Except.ok.injEq, Json.number.injEq,
      JsonNumber.integer.injEq]
  · intro value
    obtain ⟨least, greatest⟩ := Sanitizer.castInteger_bounds value
    refine ⟨Sanitizer.castInteger value, rfl, least, greatest, fun record found => ?_⟩
    rw [check, found]

/-- The greatest integer, with a plus sign and between blanks, and a truth value. -/
theorem integer_kept_iff_greatest :
    let record : Record := [("n", .string " +9223372036854775807\n")]
    (integer.check .newYear "n" record [] = .ok true ∧
      Sanitizer.integer.apply (.string " +9223372036854775807\n") [] =
        .ok (.number (.integer JsonNumber.int64Max))) ∧
      Sanitizer.integer.apply (.bool true) [] = .ok (.number (.integer 1)) ∧
      integer.check .newYear "n" [("n", .number (.integer 1))] [] = .ok true := by
  intro record
  obtain ⟨texts, values⟩ := integer_kept_iff .newYear "n" [] []
  have accepted : integer.check .newYear "n" record [] = .ok true := by decide +kernel
  obtain ⟨n, writes_iff, -, -, cast_iff⟩ := texts record _ rfl accepted
  have writes := (readInteger?_eq_some_iff.mp
    (show readInteger? (Text.trim " +9223372036854775807\n".toList) = some JsonNumber.int64Max by decide +kernel)).1
  obtain rfl := (writes_iff _).mp writes
  obtain ⟨one, cast, -, -, passes⟩ := values (.bool true)
  cases cast
  exact ⟨⟨accepted, cast_iff.mpr (by decide)⟩, rfl, passes _ rfl⟩

/-- The digits of the least integer are cast to zero. -/
theorem not_integer_kept :
    let least := "-9223372036854775808"
    (integer.check .newYear "n" [("n", .string least)] [] = .ok true ∧
        WritesInteger (Text.trim least.toList) JsonNumber.int64Min ∧
        Sanitizer.integer.apply (.string least) [] = .ok (.number (.integer 0))) ∧
      ¬ ∀ (surroundings : Surroundings) (field : String) (record : Record) (arguments options : List String)
          (s : String) (n : Int), record.get? field = some (.string s) →
        integer.check surroundings field record arguments = .ok true → WritesInteger (Text.trim s.toList) n →
          Sanitizer.integer.apply (.string s) options = .ok (.number (.integer n)) := by
  intro least
  have accepted : integer.check .newYear "n" [("n", .string least)] [] = .ok true := by decide +kernel
  have writes := (readInteger?_eq_some_iff.mp
    (show readInteger? (Text.trim least.toList) = some JsonNumber.int64Min by decide +kernel)).1
  have zero : Sanitizer.castInteger (.string least) = 0 := by decide +kernel
  have cast : Sanitizer.integer.apply (.string least) [] = .ok (.number (.integer 0)) := by
    rw [Sanitizer.apply, zero]
  refine ⟨⟨accepted, writes, cast⟩, fun all => ?_⟩
  have kept := all .newYear "n" _ [] [] least _ rfl accepted writes
  rw [cast] at kept
  cases kept

end Validator

end RecordRules
