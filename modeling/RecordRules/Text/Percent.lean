/-
Percent escapes.

* `Percent.encode`: every byte but letters, digits, `-`, `.` and `_` as an
  escape; escapes that are there already stay;
* `Percent.decode`: the bytes that a text with escapes stands for.
-/
import RecordRules.Text.CodeTable
import RecordRules.Text.Utf8

namespace RecordRules.Percent

/-- The upper-case hexadecimal digit of a value below sixteen. -/
def hexDigit (n : Nat) : Char := if n < 10 then Char.ofNat ('0'.toNat + n) else Char.ofNat ('A'.toNat + (n - 10))

/-- The character of a byte below 128. -/
def asciiChar (b : UInt8) : Char := Char.ofNat b.toNat

/-- Whether a byte is a hexadecimal digit. -/
def isHex (b : UInt8) : Bool := (hexValue? (asciiChar b)).isSome

/-- The bytes that stand for themselves. -/
def isPlain (b : UInt8) : Bool :=
  (asciiChar b).isAlphanum || asciiChar b == '-' || asciiChar b == '.' || asciiChar b == '_'

/-- A percent sign before two hexadecimal digits. -/
def beginsEscape (b : UInt8) (rest : List UInt8) : Bool :=
  asciiChar b == '%' &&
    match rest with
    | x :: y :: _ => isHex x && isHex y
    | _ => false

/-- The escape of a byte. -/
def escapeByte (b : UInt8) : List Char := ['%', hexDigit (b.toNat / 16), hexDigit (b.toNat % 16)]

/-- The encoded form of bytes. -/
def encodeBytes : List UInt8 → List Char
  | [] => []
  | b :: rest =>
    (if isPlain b || beginsEscape b rest then [asciiChar b] else escapeByte b) ++ encodeBytes rest

/-- The encoded form of a text. -/
def encode (s : List Char) : List Char := encodeBytes (Text.utf8Bytes s)

/-- The bytes that bytes with escapes stand for. A percent sign that begins no
escape stands for itself. -/
def decodeBytes : List UInt8 → List UInt8
  | [] => []
  | [a] => [a]
  | [a, b] => [a, b]
  | a :: b :: c :: rest =>
    if asciiChar a == '%' && isHex b && isHex c then
      UInt8.ofNat (hexNumber [asciiChar b, asciiChar c]) :: decodeBytes rest
    else a :: decodeBytes (b :: c :: rest)

/-- The bytes that a text with escapes stands for. -/
def decode (s : List Char) : List UInt8 := decodeBytes (Text.utf8Bytes s)

end RecordRules.Percent
