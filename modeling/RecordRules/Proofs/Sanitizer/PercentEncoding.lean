/-
Percent escapes: encoding keeps what a text stands for.

* `Percent.decodeBytes_of_alone`, `Percent.decodeBytes_of_escape`: one step of decoding
  bytes, by whether they begin with an escape;
* `Percent.decode_cons_of_isPlainChar`, `Percent.decode_escape`: the same step on the
  characters of an encoded text;
* `Percent.decode_encode`: an encoded text stands for the same bytes as the text;
* `Sanitizer.percentEncode_laws`: what the sanitizer makes of a string.
-/
import RecordRules.Proofs.Text.Percent
import RecordRules.Sanitizer.Basic

namespace RecordRules

namespace Percent

open Text

variable {b x y : UInt8} {c d : Char} {rest : List UInt8} {s : List Char}

/-! ### Steps on bytes -/

/-- Every byte is that of the character it is read as. -/
lemma ofNat_asciiChar (b : UInt8) : UInt8.ofNat (asciiChar b).toNat = b := by
  have byte := b.toNat_lt
  have valid : b.toNat.isValidChar := Or.inl (by omega)
  rw [asciiChar, Char.ofNat, dif_pos valid]
  exact UInt8.ofNat_toNat

/-- A byte that begins no escape stands for itself. -/
lemma decodeBytes_of_alone (alone : beginsEscape b rest = false) :
    decodeBytes (b :: rest) = b :: decodeBytes rest := by
  rcases rest with _ | ⟨x, _ | ⟨y, after⟩⟩
  · rfl
  · rfl
  · have stays : (asciiChar b == '%' && isHex x && isHex y) = false := by
      rw [Bool.and_assoc]
      exact alone
    rw [decodeBytes, stays]
    rfl

/-- An escape stands for the byte that its digits write. -/
lemma decodeBytes_of_escape (percent : asciiChar b = '%') (high : isHex x = true)
    (low : isHex y = true) :
    decodeBytes (b :: x :: y :: rest) =
      UInt8.ofNat (hexNumber [asciiChar x, asciiChar y]) :: decodeBytes rest := by
  rw [decodeBytes, percent, high, low]
  rfl

lemma beginsEscape_of_ne (other : asciiChar b ≠ '%') : beginsEscape b rest = false := by
  rw [beginsEscape.eq_def, beq_eq_false_iff_ne.mpr other, Bool.false_and]

/-! ### Steps on characters -/

lemma ne_percent_of_isPlainChar (plain : isPlainChar c = true) : c ≠ '%' := by
  rintro rfl
  revert plain
  decide

/-- A plain character stands for its byte. -/
lemma decode_cons_of_isPlainChar (plain : isPlainChar c = true) (s : List Char) :
    decode (c :: s) = UInt8.ofNat c.toNat :: decode s := by
  have ascii := toNat_lt_of_isPlainChar plain
  have other : asciiChar (UInt8.ofNat c.toNat) ≠ '%' := by
    rw [asciiChar_ofNat ascii]
    exact ne_percent_of_isPlainChar plain
  rw [decode, utf8Bytes_cons_ascii ascii, decodeBytes_of_alone (beginsEscape_of_ne other), decode]

/-- A percent sign and two hexadecimal digits stand for one byte. -/
lemma decode_escape (high : isHexChar c = true) (low : isHexChar d = true) (s : List Char) :
    decode ('%' :: c :: d :: s) = UInt8.ofNat (hexNumber [c, d]) :: decode s := by
  have ascii := toNat_lt_of_isPlainChar (isPlainChar_of_isHexChar high)
  have ascii' := toNat_lt_of_isPlainChar (isPlainChar_of_isHexChar low)
  have same := asciiChar_ofNat ascii
  have same' := asciiChar_ofNat ascii'
  have digit : isHex (UInt8.ofNat c.toNat) = true := by rwa [isHex, same]
  have digit' : isHex (UInt8.ofNat d.toNat) = true := by rwa [isHex, same']
  rw [decode, utf8Bytes_cons_ascii (by decide), utf8Bytes_cons_ascii ascii,
    utf8Bytes_cons_ascii ascii', decodeBytes_of_escape (by decide) digit digit', same, same', decode]

/-- The two digits of a byte write it. -/
lemma hexNumber_hexDigit {n : Nat} (small : n < 256) :
    hexNumber [hexDigit (n / 16), hexDigit (n % 16)] = n := by
  have value : ∀ k < 16, (hexValue? (hexDigit k)).getD 0 = k := by decide
  have high := value (n / 16) (by omega)
  have low := value (n % 16) (by omega)
  calc hexNumber [hexDigit (n / 16), hexDigit (n % 16)]
      = 16 * (16 * 0 + (hexValue? (hexDigit (n / 16))).getD 0) +
          (hexValue? (hexDigit (n % 16))).getD 0 := rfl
    _ = n := by omega

/-! ### Encoding and decoding -/

/-- Encoded bytes stand for the same bytes as the bytes themselves. -/
lemma decode_encodeBytes (bytes : List UInt8) : decode (encodeBytes bytes) = decodeBytes bytes := by
  -- the induction is on the bytes behind the first one or behind an escape
  induction length : bytes.length using Nat.strongRecOn generalizing bytes with
  | _ n ih =>
    cases bytes with
    | nil => rfl
    | cons b rest =>
      rw [List.length_cons] at length
      cases begins : beginsEscape b rest with
      | true =>
        have percent : asciiChar b = '%' := by
          rw [beginsEscape.eq_def, Bool.and_eq_true, beq_iff_eq] at begins
          exact begins.1
        obtain ⟨x, y, after, rfl, high, low, encoded⟩ := encodeBytes_of_beginsEscape begins
        simp only [List.length_cons] at length
        rw [encoded, decode_escape high low, decodeBytes_of_escape percent high low,
          ih after.length (by omega) after rfl]
      | false =>
        rw [decodeBytes_of_alone begins, ← ih rest.length (by omega) rest rfl]
        cases stays : isPlainChar (asciiChar b) with
        | true =>
          rw [encodeBytes_of_isPlain stays, decode_cons_of_isPlainChar stays, ofNat_asciiChar]
        | false =>
          have byte := b.toNat_lt
          rw [encodeBytes_of_other stays begins,
            decode_escape (isHexChar_hexDigit (by omega)) (isHexChar_hexDigit (by omega)),
            hexNumber_hexDigit byte, UInt8.ofNat_toNat]

/-- **Encoding keeps what a text stands for.** -/
theorem decode_encode (s : List Char) : decode (encode s) = decode s :=
  decode_encodeBytes (utf8Bytes s)

end Percent

namespace Sanitizer

/-- **Percent escapes.** Of every string the sanitizer makes one that consists of ASCII
letters, digits, `-`, `.`, `_` and escapes, which are a percent sign and two hexadecimal
digits. It stands for the same bytes as the string, where a percent sign that begins no
escape stands for itself; and it is left alone. -/
theorem percentEncode_laws (text : String) (arguments : List String) :
    ∃ encoded : String,
      percentEncode.apply (.string text) arguments = .ok (.string encoded) ∧
        Percent.Encoded encoded.toList ∧
        Percent.decode encoded.toList = Percent.decode text.toList ∧
        percentEncode.apply (.string encoded) arguments = .ok (.string encoded) := by
  refine ⟨String.ofList (Percent.encode text.toList), rfl, ?_, ?_, ?_⟩
  · rw [String.toList_ofList]
    exact Percent.encoded_encode text.toList
  · rw [String.toList_ofList, Percent.decode_encode]
  · rw [apply, mapText, String.toList_ofList, Percent.encode_encode]

/-- Percent signs before, inside and behind an escape. -/
example : Percent.encode "%%41%4%c3é".toList = "%25%41%254%c3%C3%A9".toList := by decide

end Sanitizer

end RecordRules
