/-
The sanitizers that come with the library.

* `Sanitizer`: the closed set of them, with their names;
* `Sanitizer.apply`: the value that replaces a leaf of a record.

All but `default` and `integer` change strings only.
-/
import RecordRules.Json.Value
import RecordRules.Rule.Synonym
import RecordRules.Sanitizer.Markup
import RecordRules.Sanitizer.NoiseWord
import RecordRules.Text.Percent
import RecordRules.Text.Category

namespace RecordRules

/-- The sanitizers. -/
inductive Sanitizer where
  | basicTags
  | default
  | email
  | float
  | encodeMarkup
  | integer
  | noiseWords
  | noPunctuation
  | number
  | string
  | trim
  | percentEncode
  deriving DecidableEq, Repr

namespace Sanitizer

/-- All sanitizers, in the order in which they are listed. -/
def all : List Sanitizer :=
  [basicTags, default, email, float, encodeMarkup, integer, noiseWords, noPunctuation, number, string, trim,
   percentEncode]

/-- The name of a sanitizer in rule texts. -/
def name : Sanitizer → String
  | basicTags => "basichtmltags"
  | default => "default"
  | email => "email"
  | float => "float"
  | encodeMarkup => "htmlencode"
  | integer => "integer"
  | noiseWords => "noisewords"
  | noPunctuation => "nopunctuation"
  | number => "number"
  | string => "string"
  | trim => "trim"
  | percentEncode => "urlencode"

/-- The sanitizer of a name. -/
def named? (name : String) : Option Sanitizer := all.find? (·.name == name)

/-! ### Texts -/

/-- The characters of e-mail addresses. -/
def isEmailChar (c : Char) : Bool := c.isAlphanum || "!#$%&'*+-=?^_`\x7b|\x7d~@.[]".toList.contains c

/-- The characters of numbers: digits, signs and the point; with the flags also
the comma and the exponent mark. -/
def isFloatChar (arguments : List String) (c : Char) : Bool :=
  c.isDigit || c == '+' || c == '-' || c == '.' ||
    (Flag.allowThousand.isSet arguments && c == ',') ||
    (Flag.allowScientific.isSet arguments && (c == 'e' || c == 'E'))

/-- The characters of whole numbers. -/
def isNumberChar (c : Char) : Bool := c.isDigit || c == '+' || c == '-'

/-- The numeric entity of a character of markup or a control character. -/
def numericEntity (c : Char) : List Char :=
  if c = '"' ∨ c = '\'' ∨ c = '<' ∨ c = '>' ∨ c = '&' ∨ c.toNat < 32 then
    '&' :: '#' :: (digitsOf c.toNat ++ [';'])
  else [c]

/-- The numeric entity of a quote. -/
def quoteEntity (c : Char) : List Char := if c = '"' ∨ c = '\'' then numericEntity c else [c]

/-- Punctuation that is kept. -/
def isKeptPunctuation (c : Char) : Bool := ".=$'%-".toList.contains c

/-- The blanks that are trimmed when no characters are given. -/
def isTrimmed (c : Char) : Bool :=
  c == ' ' || c == '\t' || c == '\n' || c == '\r' || c == '\x00' || c == '\x0b'

/-- The characters that are trimmed: those of the arguments, if there are any. -/
def trimClass (arguments : List String) (c : Char) : Bool :=
  if arguments = [] then isTrimmed c else arguments.any fun a => a.toList.contains c

/-! ### Integers -/

/-- The number of digits at the start, zero if it does not fit into 64 bits. -/
def leadingMagnitude (s : List Char) : Int :=
  let n := numberOf (s.takeWhile Char.isDigit)
  if (n : Int) ≤ JsonNumber.int64Max then n else 0

/-- The integer at the start of a text, after white space. -/
def leadingInteger (s : List Char) : Int :=
  match Text.trimLeft s with
  | '-' :: rest => -leadingMagnitude rest
  | '+' :: rest => leadingMagnitude rest
  | s => leadingMagnitude s

/-- The nearest 64-bit integer. -/
def clampInteger (n : Int) : Int := max JsonNumber.int64Min (min JsonNumber.int64Max n)

/-- The integer that a leaf is cast to. -/
def castInteger : Json → Int
  | .number (.integer n) => clampInteger n
  | .number (.double x) => clampInteger x.truncate
  | .bool b => if b then 1 else 0
  | .string s => leadingInteger s.toList
  | _ => 0

/-! ### Applying a sanitizer -/

/-- Changes a string by a function on its characters; other leaves stay. -/
def mapText (f : List Char → List Char) : Json → Json
  | .string s => .string (String.ofList (f s.toList))
  | value => value

/-- Null, or a string of white space. -/
def isBlankLeaf : Json → Bool
  | .null => true
  | .string s => Text.isAllBlank s.toList
  | _ => false

/-- The first argument in place of a blank leaf. -/
def applyDefault (value : Json) (arguments : List String) : Json :=
  match arguments with
  | fallback :: _ => if isBlankLeaf value then .string fallback else value
  | [] => value

/-- The value that replaces a leaf, by the sanitizer and its resolved
arguments. -/
def apply (sanitizer : Sanitizer) (value : Json) (arguments : List String) : Except Fault Json :=
  match sanitizer with
  | basicTags => .ok (mapText Markup.keepBasicTags value)
  | default => .ok (applyDefault value arguments)
  | email => .ok (mapText (List.filter isEmailChar) value)
  | float => .ok (mapText (List.filter (isFloatChar arguments)) value)
  | encodeMarkup => .ok (mapText (List.flatMap numericEntity) value)
  | integer => .ok (.number (.integer (castInteger value)))
  | noiseWords =>
    match value with
    | .string s => (NoiseWord.strip s.toList).map fun t => .string (String.ofList t)
    | value => .ok value
  | noPunctuation => .ok (mapText (List.filter fun c => !Text.isPunctuation c || isKeptPunctuation c) value)
  | number => .ok (mapText (List.filter isNumberChar) value)
  | string => .ok (mapText (fun s => (Markup.stripTags s).flatMap quoteEntity) value)
  | trim => .ok (mapText (Text.trimBoth (trimClass arguments)) value)
  | percentEncode => .ok (mapText Percent.encode value)

end Sanitizer

end RecordRules
