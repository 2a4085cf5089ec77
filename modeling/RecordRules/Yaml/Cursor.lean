/-
Places in a YAML text.

Line ends of all kinds are unified before anything is read, so a break is one
character.

* `Yaml.isBlank`, `Yaml.isBreak`, `Yaml.isWordChar`: classes of characters;
* `Yaml.unifyBreaks`, `Yaml.isReadable`: the text that is read;
* `Yaml.Cursor`: what is left of a text, and where that begins.
-/

namespace RecordRules.Yaml

/-! ### Characters -/

/-- Space and tab. -/
def isBlank (c : Char) : Bool := c == ' ' || c == '\t'

/-- The ends of lines and paragraphs. -/
def isBreak (c : Char) : Bool := c == '\n' || c == '\u2028' || c == '\u2029'

/-- The characters of names. -/
def isWordChar (c : Char) : Bool := c.isAlphanum || c == '-' || c == '_'

/-- A blank, a break or the end of the text comes next. -/
def atGap : List Char → Bool
  | [] => true
  | c :: _ => isBlank c || isBreak c

/-- Every line end is a line feed. -/
def unifyBreaks : List Char → List Char
  | [] => []
  | '\r' :: '\n' :: rest => '\n' :: unifyBreaks rest
  | c :: rest => (if c = '\r' ∨ c = '\u0085' then '\n' else c) :: unifyBreaks rest

/-- The characters that a text may contain. -/
def isReadableChar (c : Char) : Bool :=
  let n := c.toNat
  n == 0x09 || n == 0x0A || n == 0x0D || (0x20 ≤ n && n ≤ 0x7E) || n == 0x85 || (0xA0 ≤ n && n ≤ 0xD7FF) ||
    (0xE000 ≤ n && n ≤ 0xFFFD && n != 0xFEFF) || 0x10000 ≤ n

/-- The text without the mark of its byte order. -/
def withoutByteOrderMark : List Char → List Char
  | '\uFEFF' :: rest => rest
  | s => s

/-! ### Places -/

/-- A place in a text; all numbers begin with zero. -/
structure Place where
  index : Nat
  line : Nat
  column : Nat
  deriving DecidableEq, Repr

/-- The place after a character. -/
def Place.after (place : Place) (c : Char) : Place :=
  if isBreak c then ⟨place.index + 1, place.line + 1, 0⟩ else ⟨place.index + 1, place.line, place.column + 1⟩

/-- What is left of a text, and where that begins. -/
structure Cursor where
  rest : List Char
  place : Place
  deriving Repr

namespace Cursor

/-- The beginning of a text. -/
def start (text : List Char) : Cursor := ⟨text, ⟨0, 0, 0⟩⟩

/-- The column of a cursor. -/
def column (cursor : Cursor) : Nat := cursor.place.column

/-- The cursor after a number of characters. -/
def skip : Nat → Cursor → Cursor
  | n + 1, ⟨c :: rest, place⟩ => skip n ⟨rest, place.after c⟩
  | _, cursor => cursor

/-- The cursor after all characters of a class that come next. -/
def skipWhile (p : Char → Bool) (cursor : Cursor) : Cursor := cursor.skip (cursor.rest.takeWhile p).length

/-- The characters of a class that come next, and the cursor after them. -/
def takeWhile (p : Char → Bool) (cursor : Cursor) : List Char × Cursor :=
  (cursor.rest.takeWhile p, cursor.skipWhile p)

end Cursor

/-- Three hyphens or three points at the beginning of a line, and a gap after
them: the mark between two documents. -/
def atDocumentMark (place : Place) (s : List Char) : Bool :=
  place.column == 0 &&
    match s with
    | '-' :: '-' :: '-' :: rest => atGap rest
    | '.' :: '.' :: '.' :: rest => atGap rest
    | _ => false

end RecordRules.Yaml
