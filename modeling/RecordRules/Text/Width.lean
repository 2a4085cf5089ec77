/-
The width of texts on a display of fixed width.

* `Text.charWidth`: the columns of a character that stands alone;
* `Text.displayWidth`: the columns of a text, in which several characters may
  make up one sign.
-/
import RecordRules.Text.PropertyTable
import RecordRules.Text.WidthTable

namespace RecordRules.Text

/-- Vowels and final consonants of Korean syllables, which join what is before. -/
def isJoiningJamo (c : Char) : Bool :=
  (0x1160 ≤ c.toNat && c.toNat ≤ 0x11FF) || (0xD7B0 ≤ c.toNat && c.toNat ≤ 0xD7FB)

/-- Characters that take no column of their own. -/
def isZeroWidth (c : Char) : Bool :=
  c.toNat != 0x115F &&
    (isJoiningJamo c || defaultIgnorableCodePointRanges.contains c.toNat || graphemeExtendRanges.contains c.toNat)

/-- The columns of a character that stands alone. -/
def charWidth (c : Char) : Nat :=
  if c.toNat < 0x300 then (if c.toNat = 0xAD then 0 else 1)
  else if isZeroWidth c then 0
  else if wideRanges.contains c.toNat then 2
  else 1

/-- A character that may begin a pictorial sign. -/
def isPictorial (c : Char) : Bool := emojiRanges.contains c.toNat

/-- The columns that a text adds after a character. A mark for pictures makes the
picture before it wide; tones and further pictures that are joined to a picture
add nothing. -/
def widthAfter (before : Option Char) (joined : Bool) : List Char → Nat
  | [] => 0
  | c :: rest =>
    let afterPicture := before.any isPictorial
    if c.toNat = 0xFE0F then
      (if afterPicture && before.any (charWidth · == 1) then 1 else 0) + widthAfter before joined rest
    else if c.toNat = 0x200D then widthAfter before afterPicture rest
    else if afterPicture && (emojiModifierRanges.contains c.toNat || (joined && isPictorial c)) then
      widthAfter before false rest
    else charWidth c + widthAfter (if isZeroWidth c then before else some c) false rest

/-- The columns of a text. -/
def displayWidth (s : List Char) : Nat := widthAfter none false s

end RecordRules.Text
