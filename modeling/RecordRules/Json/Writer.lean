/-
The text of JSON values.

* `JsonNumber.text`: integers by their digits, doubles by their shortest digits;
* `Json.compact`: one line without blanks;
* `Json.pretty`: one member or item a line, indented by two spaces a level.
-/
import RecordRules.Json.Value
import RecordRules.Decimal.Shortest

namespace RecordRules

/-- How doubles are written: the positions of the decimal point, counted from
before the first digit, between which no exponent is used. -/
structure DoubleFormat where
  leastPoint : Int
  greatestPoint : Int

/-- JSON texts write doubles from `0.00001` up to below `1e16` without an
exponent. -/
def DoubleFormat.json : DoubleFormat := ⟨-4, 16⟩

namespace JsonNumber

/-- A sign and the digits of an exponent. -/
def exponentText (e : Int) : List Char := (if e < 0 then '-' else '+') :: digitsOf e.natAbs

/-- The text of a decimal number: with a point and at least one digit on both
sides of it in the plain range, else with one digit before the point and an
exponent. -/
def decimalText (format : DoubleFormat) (d : DecimalNumber) : List Char :=
  let digits := digitsOf d.coefficient
  let point : Int := digits.length + d.exponent
  if format.leastPoint ≤ point ∧ point ≤ format.greatestPoint then
    if 0 ≤ d.exponent then digits ++ List.replicate d.exponent.toNat '0' ++ ['.', '0']
    else if 0 < point then digits.take point.toNat ++ '.' :: digits.drop point.toNat
    else '0' :: '.' :: (List.replicate (-point).toNat '0' ++ digits)
  else
    match digits with
    | [] => []
    | first :: rest =>
      first :: ((if rest = [] then [] else '.' :: rest) ++ 'e' :: exponentText (point - 1))

/-- The text of a double. -/
def doubleText (x : Binary64) : List Char :=
  (if x.negative then ['-'] else []) ++
    (if x.mantissa = 0 then ['0', '.', '0'] else decimalText .json x.shortest)

/-- The text of a number. -/
def text : JsonNumber → List Char
  | integer n => integerText n
  | double x => doubleText x

end JsonNumber

namespace Json

/-- The hexadecimal digit of a value below sixteen. -/
def hexDigit (n : Nat) : Char := if n < 10 then digitChar n else Char.ofNat ('a'.toNat + (n - 10))

/-- A character inside a JSON string. -/
def escapedChar (c : Char) : List Char :=
  if c = '"' then ['\\', '"']
  else if c = '\\' then ['\\', '\\']
  else if c = '\n' then ['\\', 'n']
  else if c = '\r' then ['\\', 'r']
  else if c = '\t' then ['\\', 't']
  else if c = '\x08' then ['\\', 'b']
  else if c = '\x0c' then ['\\', 'f']
  else if c.toNat < 0x20 then ['\\', 'u', '0', '0', hexDigit (c.toNat / 16), hexDigit (c.toNat % 16)]
  else [c]

/-- A string in quotes. -/
def quoted (s : String) : List Char := '"' :: (s.toList.flatMap escapedChar ++ ['"'])

/-- The text of a truth value. -/
def boolText (b : Bool) : List Char :=
  if b then ['t', 'r', 'u', 'e'] else ['f', 'a', 'l', 's', 'e']

mutual

/-- The text of a value without blanks. -/
def compactChars : Json → List Char
  | null => ['n', 'u', 'l', 'l']
  | bool b => boolText b
  | number n => n.text
  | string s => quoted s
  | array items => '[' :: (compactItems items ++ [']'])
  | object members => '{' :: (compactMembers members ++ ['}'])

/-- Items separated by commas. -/
def compactItems : List Json → List Char
  | [] => []
  | [item] => compactChars item
  | item :: rest => compactChars item ++ ',' :: compactItems rest

/-- Members separated by commas. -/
def compactMembers : List (String × Json) → List Char
  | [] => []
  | [(key, value)] => quoted key ++ ':' :: compactChars value
  | (key, value) :: rest => quoted key ++ ':' :: (compactChars value ++ ',' :: compactMembers rest)

end

/-- The text of a value on one line. -/
def compact (value : Json) : String := String.ofList value.compactChars

/-- A line break and the indentation of a level. -/
def breakTo (level : Nat) : List Char := '\n' :: List.replicate (2 * level) ' '

mutual

/-- The text of a value that begins on a given level. -/
def prettyChars (level : Nat) : Json → List Char
  | null => ['n', 'u', 'l', 'l']
  | bool b => boolText b
  | number n => n.text
  | string s => quoted s
  | array [] => ['[', ']']
  | array (item :: rest) =>
    '[' :: (breakTo (level + 1) ++ prettyItems (level + 1) (item :: rest) ++ breakTo level ++ [']'])
  | object [] => ['{', '}']
  | object (member :: rest) =>
    '{' :: (breakTo (level + 1) ++ prettyMembers (level + 1) (member :: rest) ++ breakTo level ++ ['}'])

/-- Items on lines of their own. -/
def prettyItems (level : Nat) : List Json → List Char
  | [] => []
  | [item] => prettyChars level item
  | item :: rest => prettyChars level item ++ ',' :: (breakTo level ++ prettyItems level rest)

/-- Members on lines of their own. -/
def prettyMembers (level : Nat) : List (String × Json) → List Char
  | [] => []
  | [(key, value)] => quoted key ++ ':' :: ' ' :: prettyChars level value
  | (key, value) :: rest =>
    quoted key ++ ':' :: ' ' :: (prettyChars level value ++ ',' :: (breakTo level ++ prettyMembers level rest))

end

/-- The text of a value over several lines. -/
def pretty (value : Json) : String := String.ofList (value.prettyChars 0)

end Json

end RecordRules
