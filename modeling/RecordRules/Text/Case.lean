/-
Upper and lower case of characters and of whole texts.

* `Text.lower`: the lower case of a text, in which a capital sigma at the end
  of a word becomes a final sigma;
* `Text.upper`: the upper case of a text, one character at a time.
-/
import RecordRules.Text.CaseTable
import RecordRules.Text.PropertyTable

namespace RecordRules.Text

/-! ### Characters -/

/-- An upper-case letter. -/
def isUpper (c : Char) : Bool :=
  if c.toNat < 128 then c.isUpper else uppercaseRanges.contains c.toNat

/-- A lower-case letter. -/
def isLower (c : Char) : Bool :=
  if c.toNat < 128 then c.isLower else lowercaseRanges.contains c.toNat

/-- The lower case of a character; that of `İ` has two characters. -/
def lowerChar (c : Char) : List Char :=
  if c.toNat < 128 then [c.toLower]
  else if c = 'İ' then ['i', '\u0307']
  else
    match lowerMap.image? c.toNat with
    | some n => [Char.ofNat n]
    | none => [c]

/-- The upper case of a character, which may have up to three characters. -/
def upperChar (c : Char) : List Char :=
  if c.toNat < 128 then [c.toUpper]
  else
    match upperExpansions.lookup c.toNat with
    | some codes => codes.map Char.ofNat
    | none =>
      match upperMap.image? c.toNat with
      | some n => [Char.ofNat n]
      | none => [c]

/-! ### Texts -/

/-- The first character that is not ignored in case decisions has case. -/
def meetsCased (s : List Char) : Bool :=
  match s.dropWhile (caseIgnorableRanges.contains ·.toNat) with
  | c :: _ => casedRanges.contains c.toNat
  | [] => false

/-- The lower case of a text that stands after the characters `before`, which
are given in reverse. A capital sigma with a cased character before it and none
after it is final. -/
def lowerAfter (before : List Char) : List Char → List Char
  | [] => []
  | c :: rest =>
    if c = 'Σ' then
      (if meetsCased before && !meetsCased rest then 'ς' else 'σ') :: lowerAfter (c :: before) rest
    else lowerChar c ++ lowerAfter (c :: before) rest

/-- The lower case of a text. -/
def lower (s : List Char) : List Char := lowerAfter [] s

/-- The upper case of a text. -/
def upper (s : List Char) : List Char := s.flatMap upperChar

/-- A text with its first character in upper case. -/
def capitalize : List Char → List Char
  | [] => []
  | c :: rest => upperChar c ++ rest

/-- A text with its first character in lower case. -/
def uncapitalize : List Char → List Char
  | [] => []
  | c :: rest => lowerChar c ++ rest

/-- The lower case of a string. -/
def lowerString (s : String) : String := String.ofList (lower s.toList)

end RecordRules.Text
