/-
Character classes that depend on the general category of Unicode.

* `Text.generalCategory`: the two-letter category;
* `Text.isDecimalDigit`, `Text.isPunctuation`, `Text.isMark`;
* `Text.isWordChar`: letters, marks, digits, connectors and joiners.
-/
import RecordRules.Text.CategoryTable
import RecordRules.Text.PropertyTable

namespace RecordRules.Text

/-- The two-letter general category. -/
def generalCategory (c : Char) : String := categoryRuns.label c.toNat

/-- A category belongs to a class if it begins with the letters of the class:
`L` holds `Lu`, `Ll`, `Lt`, `Lm` and `Lo`. -/
def hasCategory (classLetters : String) (c : Char) : Bool :=
  classLetters.toList.isPrefixOf (generalCategory c).toList

/-- A digit of some decimal system. -/
def isDecimalDigit (c : Char) : Bool :=
  if c.toNat < 128 then c.isDigit else generalCategory c == "Nd"

/-- Punctuation of any kind; symbols such as `$` and `=` are none. -/
def isPunctuation (c : Char) : Bool := hasCategory "P" c

/-- A combining mark. -/
def isMark (c : Char) : Bool := hasCategory "M" c

/-- Letters and numbers that are read as letters. -/
def isAlphabetic (c : Char) : Bool :=
  if c.toNat < 128 then c.isAlpha else alphabeticRanges.contains c.toNat

/-- The joiners U+200C and U+200D. -/
def isJoiner (c : Char) : Bool := c.toNat == 0x200C || c.toNat == 0x200D

/-- The characters of words: letters, marks, decimal digits, connecting
punctuation such as `_`, and joiners. -/
def isWordChar (c : Char) : Bool :=
  if c.toNat < 128 then c.isAlphanum || c == '_'
  else isAlphabetic c || isMark c || isDecimalDigit c || generalCategory c == "Pc" || isJoiner c

end RecordRules.Text
