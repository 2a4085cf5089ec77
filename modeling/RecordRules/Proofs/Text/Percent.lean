/-
Percent escapes: what encoding leaves alone.

* `Text.utf8Bytes_cons_ascii`: an ASCII character has one byte, which is read as
  that character (`Percent.asciiChar_ofNat`);
* `Percent.Encoded`: texts of plain characters and escapes;
* `Percent.encoded_encode`: what encoding makes is such a text;
* `Percent.encode_of_encoded`: such a text stays as it is, so that encoding twice
  is encoding once (`Percent.encode_encode`).
-/
import Mathlib.Tactic.Lemma
import RecordRules.Text.Percent

namespace RecordRules

/-! ### ASCII texts -/

namespace Text

lemma utf8Bytes_cons (c : Char) (s : List Char) :
    utf8Bytes (c :: s) = String.utf8EncodeChar c ++ utf8Bytes s := List.flatMap_cons

/-- An ASCII character has one byte. -/
lemma utf8Bytes_cons_ascii {c : Char} (ascii : c.toNat < 128) (s : List Char) :
    utf8Bytes (c :: s) = UInt8.ofNat c.toNat :: utf8Bytes s := by
  have one : String.utf8EncodeChar c = [UInt8.ofNat c.toNat] := by
    simp [String.utf8EncodeChar, Nat.le_of_lt_succ ascii]
  rw [utf8Bytes_cons, one]
  rfl

end Text

namespace Percent

open Text

/-- The byte of an ASCII character is read as that character. -/
lemma asciiChar_ofNat {c : Char} (ascii : c.toNat < 128) : asciiChar (UInt8.ofNat c.toNat) = c := by
  have byte : (UInt8.ofNat c.toNat).toNat = c.toNat := by
    rw [UInt8.toNat_ofNat']
    omega
  rw [asciiChar, byte, Char.ofNat_toNat]

/-- A property of all ASCII characters, checked one by one. -/
lemma forall_ascii {P : Char → Prop} (h : ∀ n < 128, P (Char.ofNat n)) {c : Char} (ascii : c.toNat < 128) :
    P c := by
  have checked := h c.toNat ascii
  rwa [Char.ofNat_toNat] at checked

/-! ### Characters of encoded texts -/

/-- The characters that stand for themselves. -/
def isPlainChar (c : Char) : Bool := c.isAlphanum || c == '-' || c == '.' || c == '_'

/-- The hexadecimal digits. -/
def isHexChar (c : Char) : Bool := (hexValue? c).isSome

lemma toNat_lt_of_isPlainChar {c : Char} (plain : isPlainChar c = true) : c.toNat < 128 := by
  have plain : (c.isUpper || c.isLower || c.isDigit || c == '-' || c == '.' || c == '_') = true := plain
  simp only [Bool.or_eq_true, beq_iff_eq] at plain
  rcases plain with ((((upper | small) | digit) | rfl) | rfl) | rfl
  · have bounds : 65 ≤ c.toNat ∧ c.toNat ≤ 90 := of_decide_eq_true upper
    omega
  · have bounds := Bool.and_eq_true_iff.mp small
    have most : c.toNat ≤ 122 := of_decide_eq_true bounds.2
    omega
  · have bounds := Bool.and_eq_true_iff.mp digit
    have most : c.toNat ≤ 57 := of_decide_eq_true bounds.2
    omega
  all_goals decide

lemma isPlainChar_of_isHexChar {c : Char} (hex : isHexChar c = true) : isPlainChar c = true := by
  have range : ('0' ≤ c ∧ c ≤ '9') ∨ ('a' ≤ c ∧ c ≤ 'f') ∨ ('A' ≤ c ∧ c ≤ 'F') := by
    rw [isHexChar, hexValue?] at hex
    split at hex
    · next digit => exact .inl digit
    · split at hex
      · next small => exact .inr (.inl small)
      · split at hex
        · next capital => exact .inr (.inr capital)
        · cases hex
  have ascii : c.toNat < 128 := by
    simp only [Char.le_def, UInt32.le_iff_toNat_le] at range
    change (48 ≤ c.toNat ∧ c.toNat ≤ 57) ∨ (97 ≤ c.toNat ∧ c.toNat ≤ 102) ∨
      (65 ≤ c.toNat ∧ c.toNat ≤ 70) at range
    omega
  exact forall_ascii (P := fun c => isHexChar c = true → isPlainChar c = true) (by decide) ascii hex

lemma isHexChar_hexDigit {n : Nat} (small : n < 16) : isHexChar (hexDigit n) = true := by
  have all : ∀ k < 16, isHexChar (hexDigit k) = true := by decide
  exact all n small

/-! ### Encoded texts -/

/-- A text of plain characters and escapes. -/
inductive Encoded : List Char → Prop where
  | nil : Encoded []
  | plain {c : Char} {s : List Char} (stays : isPlainChar c = true) (rest : Encoded s) : Encoded (c :: s)
  | escape {x y : Char} {s : List Char} (high : isHexChar x = true) (low : isHexChar y = true)
      (rest : Encoded s) : Encoded ('%' :: x :: y :: s)

namespace Encoded

variable {c : Char} {s : List Char}

/-- The characters of an encoded text. -/
lemma of_mem (h : Encoded s) (mem : c ∈ s) : isPlainChar c = true ∨ c = '%' := by
  induction h with
  | nil => cases mem
  | plain stays _ ih =>
    rcases List.mem_cons.mp mem with rfl | mem
    · exact .inl stays
    · exact ih mem
  | escape high low _ ih =>
    simp only [List.mem_cons] at mem
    rcases mem with rfl | rfl | rfl | mem
    · exact .inr rfl
    · exact .inl (isPlainChar_of_isHexChar high)
    · exact .inl (isPlainChar_of_isHexChar low)
    · exact ih mem

/-- What stands behind a plain character is an encoded text. -/
lemma tail (h : Encoded (c :: s)) (stays : isPlainChar c = true) : Encoded s := by
  cases h with
  | plain _ rest => exact rest
  | escape => exact absurd stays (by decide)

end Encoded

/-! ### Encoding -/

lemma encodeBytes_cons (b : UInt8) (rest : List UInt8) :
    encodeBytes (b :: rest) =
      (if isPlain b || beginsEscape b rest then [asciiChar b] else escapeByte b) ++ encodeBytes rest := rfl

lemma encodeBytes_of_isPlain {b : UInt8} (stays : isPlainChar (asciiChar b) = true) (rest : List UInt8) :
    encodeBytes (b :: rest) = asciiChar b :: encodeBytes rest := by
  have plain : isPlain b = true := stays
  simp [encodeBytes_cons, plain]

/-- A percent sign that begins an escape stays, and so do the two digits. -/
lemma encodeBytes_of_beginsEscape {b : UInt8} {rest : List UInt8} (begins : beginsEscape b rest = true) :
    ∃ x y after, rest = x :: y :: after ∧ isHexChar (asciiChar x) = true ∧ isHexChar (asciiChar y) = true ∧
      encodeBytes (b :: rest) = '%' :: asciiChar x :: asciiChar y :: encodeBytes after := by
  have stays : encodeBytes (b :: rest) = asciiChar b :: encodeBytes rest := by
    simp [encodeBytes_cons, begins]
  rcases rest with _ | ⟨x, _ | ⟨y, after⟩⟩
  · simp [beginsEscape] at begins
  · simp [beginsEscape] at begins
  · simp only [beginsEscape, Bool.and_eq_true, beq_iff_eq] at begins
    obtain ⟨percent, high, low⟩ := begins
    refine ⟨x, y, after, rfl, high, low, ?_⟩
    rw [stays, percent, encodeBytes_of_isPlain (isPlainChar_of_isHexChar high),
      encodeBytes_of_isPlain (isPlainChar_of_isHexChar low)]

lemma encodeBytes_of_other {b : UInt8} {rest : List UInt8} (changes : isPlainChar (asciiChar b) = false)
    (alone : beginsEscape b rest = false) :
    encodeBytes (b :: rest) =
      '%' :: hexDigit (b.toNat / 16) :: hexDigit (b.toNat % 16) :: encodeBytes rest := by
  have not_plain : isPlain b = false := changes
  simp [encodeBytes_cons, not_plain, alone, escapeByte]

/-- What encoding makes is an encoded text. -/
lemma encoded_encodeBytes (bytes : List UInt8) : Encoded (encodeBytes bytes) := by
  induction bytes with
  | nil => exact .nil
  | cons b rest ih =>
    cases stays : isPlainChar (asciiChar b) with
    | true =>
      rw [encodeBytes_of_isPlain stays]
      exact .plain stays ih
    | false =>
      cases begins : beginsEscape b rest with
      | true =>
        obtain ⟨x, y, after, rfl, high, low, encoded⟩ := encodeBytes_of_beginsEscape begins
        -- the digits are plain, so they stand in front of what the rest becomes
        have plain_x := isPlainChar_of_isHexChar high
        have plain_y := isPlainChar_of_isHexChar low
        rw [encodeBytes_of_isPlain plain_x, encodeBytes_of_isPlain plain_y] at ih
        rw [encoded]
        exact .escape high low ((ih.tail plain_x).tail plain_y)
      | false =>
        have byte := b.toNat_lt
        rw [encodeBytes_of_other stays begins]
        exact .escape (isHexChar_hexDigit (by omega)) (isHexChar_hexDigit (by omega)) ih

lemma encoded_encode (s : List Char) : Encoded (encode s) := encoded_encodeBytes (utf8Bytes s)

/-- A text of plain characters and escapes stays as it is. -/
lemma encode_of_encoded {s : List Char} (h : Encoded s) : encode s = s := by
  rw [encode]
  induction h with
  | nil => rfl
  | @plain c s stays _ ih =>
    have ascii := toNat_lt_of_isPlainChar stays
    have same := asciiChar_ofNat ascii
    rw [utf8Bytes_cons_ascii ascii, encodeBytes_of_isPlain (by rw [same]; exact stays), same, ih]
  | @escape x y s high low _ ih =>
    have ascii_x := toNat_lt_of_isPlainChar (isPlainChar_of_isHexChar high)
    have ascii_y := toNat_lt_of_isPlainChar (isPlainChar_of_isHexChar low)
    have same_x := asciiChar_ofNat ascii_x
    have same_y := asciiChar_ofNat ascii_y
    rw [utf8Bytes_cons_ascii (by decide), utf8Bytes_cons_ascii ascii_x, utf8Bytes_cons_ascii ascii_y]
    have begins : beginsEscape (UInt8.ofNat '%'.toNat)
        (UInt8.ofNat x.toNat :: UInt8.ofNat y.toNat :: utf8Bytes s) = true := by
      have digits : isHex (UInt8.ofNat x.toNat) = true ∧ isHex (UInt8.ofNat y.toNat) = true := by
        rw [isHex, isHex, same_x, same_y]
        exact ⟨high, low⟩
      simp only [beginsEscape, digits.1, digits.2]
      decide
    obtain ⟨x', y', after, parts, -, -, encoded⟩ := encodeBytes_of_beginsEscape begins
    cases parts
    rw [encoded, same_x, same_y, ih]

/-- **Encoding twice is encoding once.** -/
theorem encode_encode (s : List Char) : encode (encode s) = encode s :=
  encode_of_encoded (encoded_encode s)

end Percent

end RecordRules
