/-
Shapes of texts.

A shape takes characters from the start of a text. It is given by the list of
all texts that may be left over; a text has a shape if nothing may be left over.

* `Shape.one`, `Shape.andThen`, `Shape.optional`, `Shape.between`: shapes and
  their combinations;
* `Shape.holds`: whether a text has a shape;
* the shapes of names, numbers, addresses and codes.
-/
import RecordRules.Text.Blank
import RecordRules.Text.Category
import RecordRules.Text.CodeTable
import RecordRules.Decimal.Literal

namespace RecordRules

/-- A shape: what may be left over of a text. -/
abbrev Shape := List Char → List (List Char)

namespace Shape

/-- One character of a class. -/
def one (p : Char → Bool) : Shape
  | [] => []
  | c :: rest => if p c then [rest] else []

/-- Nothing. -/
def nothing : Shape := fun s => [s]

/-- One shape after another. -/
def andThen (first second : Shape) : Shape := fun s => (first s).flatMap second

/-- A shape or nothing. -/
def optional (shape : Shape) : Shape := fun s => shape s ++ [s]

/-- A shape exactly `n` times. -/
def times : Nat → Shape → Shape
  | 0, _ => nothing
  | n + 1, shape => andThen shape (times n shape)

/-- A shape at most `n` times. -/
def atMost : Nat → Shape → Shape
  | 0, _ => nothing
  | n + 1, shape => optional (andThen shape (atMost n shape))

/-- A shape at least `least` and at most `most` times. -/
def between (least most : Nat) (shape : Shape) : Shape :=
  andThen (times least shape) (atMost (most - least) shape)

/-- A shape once or more often. -/
def onceOrMore (shape : Shape) : Shape := fun s => between 1 s.length shape s

/-- All shapes of a list, one after another. -/
def sequence : List Shape → Shape
  | [] => nothing
  | shape :: rest => andThen shape (sequence rest)

/-- Whether a text has a shape. -/
def holds (shape : Shape) (s : List Char) : Bool := (shape s).contains []

/-! ### Words -/

/-- One or more ASCII letters. -/
def isAlphabetic (s : List Char) : Bool := !s.isEmpty && s.all Char.isAlpha

/-- One or more ASCII letters and digits. -/
def isAlphanumeric (s : List Char) : Bool := !s.isEmpty && s.all Char.isAlphanum

/-- The characters of names of persons: ASCII letters, white space, apostrophe
and hyphen. -/
def isNameChar (c : Char) : Bool := c.isAlpha || Text.isBlank c || c == '\'' || c == '-'

/-- The name of a person. -/
def isPersonName (s : List Char) : Bool := !s.isEmpty && s.all isNameChar

/-- A sign, and then a digit of a whole number without leading zeros. -/
def isInteger (s : List Char) : Bool :=
  let digits := match s with
    | '+' :: rest => rest
    | '-' :: rest => rest
    | _ => s
  match digits with
  | ['0'] => true
  | c :: rest => c.isDigit && c != '0' && rest.all Char.isDigit
  | [] => false

/-! ### E-mail addresses -/

/-- The characters before the `@` of an e-mail address. -/
def isMailboxChar (c : Char) : Bool := c.isAlphanum || ".!#$%&'*+/=?^_`\x7b|\x7d~-".toList.contains c

/-- A part of a host name: up to 63 letters, digits and hyphens, with no hyphen
at the ends. -/
def isHostLabel (s : List Char) : Bool :=
  s.length ≤ 63 && s.all (fun c => c.isAlphanum || c == '-') && s.head?.any Char.isAlphanum &&
    s.getLast?.any Char.isAlphanum

/-- An e-mail address whose host name has at least two parts. -/
def isEmail (s : List Char) : Bool :=
  match splitChars '@' s with
  | [mailbox, host] =>
    !mailbox.isEmpty && mailbox.all isMailboxChar && 2 ≤ (splitChars '.' host).length &&
      (splitChars '.' host).all isHostLabel
  | _ => false

/-! ### Numbers -/

/-- The sign at the start of a number, and what follows it. -/
def takeSign : List Char → Bool × List Char
  | '-' :: rest => (true, rest)
  | '+' :: rest => (false, rest)
  | s => (false, s)

/-- The digits and the exponent of a number in decimal digits of any script:
the whole part, the fraction, and the rest of the text. At least one digit is
needed before the exponent. -/
def takeMantissa (s : List Char) : Option (List Char × Option (List Char) × List Char) :=
  let whole := s.takeWhile Text.isDecimalDigit
  match s.dropWhile Text.isDecimalDigit with
  | '.' :: rest =>
    let fraction := rest.takeWhile Text.isDecimalDigit
    if whole = [] ∧ fraction = [] then none
    else some (whole, some fraction, rest.dropWhile Text.isDecimalDigit)
  | rest => if whole = [] then none else some (whole, none, rest)

/-- The exponent that is all of the text; an empty text has none. -/
def takeExponent : List Char → Option (Option (Bool × List Char))
  | [] => some none
  | c :: rest =>
    let (negative, digits) := takeSign rest
    if (c = 'e' ∨ c = 'E') ∧ digits ≠ [] ∧ digits.all Text.isDecimalDigit then some (some (negative, digits))
    else none

/-- The literal that a text writes, in decimal digits of any script and with
white space around it. -/
def numericLiteral? (s : List Char) : Option Literal := do
  let (negative, body) := takeSign (Text.trim s)
  let (whole, fraction, rest) ← takeMantissa body
  let exponent ← takeExponent rest
  some ⟨negative, whole, fraction, exponent⟩

/-- A number. -/
def isNumeric (s : List Char) : Bool := (numericLiteral? s).isSome

/-- Whether all digits of a literal are ASCII digits. -/
def hasAsciiDigits (literal : Literal) : Bool :=
  literal.whole.all Char.isDigit && (literal.fraction.getD []).all Char.isDigit &&
    match literal.exponent with
    | some (_, digits) => digits.all Char.isDigit
    | none => true

/-- The value of a number. Only ASCII digits have a value. -/
def number? (s : List Char) : Option Extended :=
  match numericLiteral? s with
  | some literal => if hasAsciiDigits literal then some literal.nearest else none
  | none => none

/-! ### Codes -/

/-- A group of hexadecimal digits. -/
def isHexGroup (size : Nat) (s : List Char) : Bool := s.length == size && s.all fun c => (hexValue? c).isSome

/-- The text without a brace at its start and without one at its end. -/
def withoutBraces (s : List Char) : List Char :=
  let s := if s.head? = some '\x7b' then s.drop 1 else s
  if s.getLast? = some '\x7d' then s.dropLast else s

/-- An identifier of five groups of hexadecimal digits whose third group begins
with 4 and whose fourth begins with 8, 9, a or b; braces around it are
optional. -/
def isGuidV4 (s : List Char) : Bool :=
  match splitChars '-' (withoutBraces s) with
  | [a, b, c, d, e] =>
    isHexGroup 8 a && isHexGroup 4 b && isHexGroup 4 c && isHexGroup 4 d && isHexGroup 12 e &&
      c.head? == some '4' && d.head?.any (fun x => ['8', '9', 'a', 'b', 'A', 'B'].contains x)
  | _ => false

/-- A space or nothing. -/
def optionalSpace : Shape := optional (one (· == ' '))

/-- A group of four digits after an optional space. -/
def ibanGroup : Shape := andThen optionalSpace (times 4 (one Text.isDecimalDigit))

/-- An international bank account number: two capitals, two digits, a group of
four capitals and digits, groups of four digits, and a group of one to four
digits, each after an optional space. -/
def iban : Shape :=
  sequence
    [times 2 (one Char.isUpper), times 2 (one Text.isDecimalDigit), optionalSpace,
     times 4 (one fun c => c.isUpper || Text.isDecimalDigit c), onceOrMore ibanGroup, optionalSpace,
     between 1 4 (one Text.isDecimalDigit)]

/-- White space or a hyphen. -/
def isSpacer (c : Char) : Bool := Text.isBlank c || c == '-'

/-- A telephone number of North America: an optional digit, then three, three
and four digits, with brackets and spacers between them. -/
def phoneNumber : Shape :=
  sequence
    [optional (andThen (one Text.isDecimalDigit) (optional (one isSpacer))),
     atMost 2 (one fun c => c == '(' || c == '[' || isSpacer c), times 3 (one Text.isDecimalDigit),
     atMost 2 (one fun c => c == ')' || c == ']' || isSpacer c), times 3 (one Text.isDecimalDigit),
     optional (one isSpacer), times 4 (one Text.isDecimalDigit)]

/-- At least one ASCII letter, one digit and one white-space character. -/
def isStreetAddress (s : List Char) : Bool := s.any Char.isAlpha && s.any Char.isDigit && s.any Text.isBlank

end Shape

end RecordRules
