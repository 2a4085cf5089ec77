/-
The texts of scalars.

* `Yaml.readSingleQuoted`, `Yaml.readDoubleQuoted`: texts in quotes, after the
  opening quote;
* `Yaml.readPlain`: texts without quotes;
* `Yaml.readBlock`: texts of whole lines, after their header.

Where a text goes on in another line, one break counts as a space, and of
several breaks all but the first count.
-/
import RecordRules.Text.CodeTable
import RecordRules.Yaml.Cursor

namespace RecordRules.Yaml

/-! ### Gaps between words -/

/-- Blanks and breaks that are followed by more text, or by nothing. -/
structure Gap where
  /-- The blanks, the latest first; only those before the first break count. -/
  blanks : List Char
  /-- The gap contains a break. -/
  broken : Bool
  /-- The first break, unless it is escaped. -/
  firstBreak : Option Char
  /-- The other breaks, the latest first. -/
  otherBreaks : List Char

namespace Gap

/-- No gap. -/
def empty : Gap := ⟨[], false, none, []⟩

/-- A gap after an escaped break. -/
def escaped : Gap := ⟨[], true, none, []⟩

/-- Whether there is a gap. -/
def isEmpty (gap : Gap) : Bool := gap.blanks.isEmpty && !gap.broken

/-- A gap with one more blank. -/
def addBlank (gap : Gap) (c : Char) : Gap := if gap.broken then gap else { gap with blanks := c :: gap.blanks }

/-- A gap with one more break. -/
def addBreak (gap : Gap) (c : Char) : Gap :=
  if gap.broken then { gap with otherBreaks := c :: gap.otherBreaks } else ⟨[], true, some c, []⟩

/-- What a gap with more text after it stands for. -/
def text (gap : Gap) : List Char :=
  if gap.broken then
    match gap.firstBreak with
    | some '\n' => if gap.otherBreaks.isEmpty then [' '] else gap.otherBreaks.reverse
    | some c => c :: gap.otherBreaks.reverse
    | none => gap.otherBreaks.reverse
  else gap.blanks.reverse

end Gap

/-! ### Quoted texts -/

/-- The text up to a closing single quote. `read` is the text so far, the latest
first. -/
def readSingleQuoted (read : List Char) (gap : Gap) (place : Place) : List Char → Option (List Char × Cursor)
  | [] => none
  | '\'' :: '\'' :: rest =>
    readSingleQuoted ('\'' :: gap.text.reverse ++ read) .empty ((place.after '\'').after '\'') rest
  | '\'' :: rest => some ((gap.text.reverse ++ read).reverse, ⟨rest, place.after '\''⟩)
  | c :: rest =>
    if atDocumentMark place (c :: rest) then none
    else if isBlank c then readSingleQuoted read (gap.addBlank c) (place.after c) rest
    else if isBreak c then readSingleQuoted read (gap.addBreak c) (place.after c) rest
    else readSingleQuoted (c :: gap.text.reverse ++ read) .empty (place.after c) rest

/-- The character of a one-letter escape. -/
def simpleEscape? (c : Char) : Option Char :=
  [('0', '\x00'), ('a', '\x07'), ('b', '\x08'), ('t', '\t'), ('\t', '\t'), ('n', '\n'), ('v', '\x0b'),
   ('f', '\x0c'), ('r', '\r'), ('e', '\x1b'), (' ', ' '), ('"', '"'), ('/', '/'), ('\\', '\\'),
   ('N', '\u0085'), ('_', '\u00a0'), ('L', '\u2028'), ('P', '\u2029')].lookup c

/-- The character of hexadecimal digits. -/
def hexEscape? (digits : List Char) : Option Char :=
  if digits.all (fun c => (hexValue? c).isSome) && (hexNumber digits).isValidChar then
    some (Char.ofNat (hexNumber digits))
  else none

/-- The place after a number of characters of one line. -/
def Place.along (place : Place) (n : Nat) : Place := ⟨place.index + n, place.line, place.column + n⟩

/-- The text up to a closing double quote. -/
def readDoubleQuoted (read : List Char) (gap : Gap) (place : Place) : List Char → Option (List Char × Cursor)
  | [] => none
  | '"' :: rest => some ((gap.text.reverse ++ read).reverse, ⟨rest, place.after '"'⟩)
  | '\\' :: 'x' :: a :: b :: rest =>
    (hexEscape? [a, b]).bind fun c =>
      readDoubleQuoted (c :: gap.text.reverse ++ read) .empty (place.along 4) rest
  | '\\' :: 'u' :: a :: b :: c :: d :: rest =>
    (hexEscape? [a, b, c, d]).bind fun e =>
      readDoubleQuoted (e :: gap.text.reverse ++ read) .empty (place.along 6) rest
  | '\\' :: 'U' :: a :: b :: c :: d :: e :: f :: g :: h :: rest =>
    (hexEscape? [a, b, c, d, e, f, g, h]).bind fun i =>
      readDoubleQuoted (i :: gap.text.reverse ++ read) .empty (place.along 10) rest
  | '\\' :: c :: rest =>
    if isBreak c then readDoubleQuoted (gap.text.reverse ++ read) .escaped ((place.after '\\').after c) rest
    else
      (simpleEscape? c).bind fun e =>
        readDoubleQuoted (e :: gap.text.reverse ++ read) .empty (place.along 2) rest
  | c :: rest =>
    if c = '\\' ∨ atDocumentMark place (c :: rest) then none
    else if isBlank c then readDoubleQuoted read (gap.addBlank c) (place.after c) rest
    else if isBreak c then readDoubleQuoted read (gap.addBreak c) (place.after c) rest
    else readDoubleQuoted (c :: gap.text.reverse ++ read) .empty (place.after c) rest

/-! ### Plain texts -/

/-- The brackets and the comma of collections in brackets. -/
def isFlowChar (c : Char) : Bool := [',', '[', ']', '{', '}'].contains c

/-- A plain text, whether a break follows it, and the cursor after it and the gap
behind it. Further lines have at least `indent` columns. -/
def readPlain (inFlow : Bool) (indent : Int) (read : List Char) (gap : Gap) (place : Place) :
    List Char → Option (List Char × Bool × Cursor)
  | [] => some (read.reverse, gap.broken, ⟨[], place⟩)
  | c :: rest =>
    let done := some (read.reverse, gap.broken, ⟨c :: rest, place⟩)
    let outside := (place.column : Int) < indent
    if isBlank c then
      if gap.broken && outside && c == '\t' then none
      else readPlain inFlow indent read (gap.addBlank c) (place.after c) rest
    else if isBreak c then readPlain inFlow indent read (gap.addBreak c) (place.after c) rest
    else if !gap.isEmpty && ((!inFlow && outside) || c == '#') then done
    else if atDocumentMark place (c :: rest) then done
    else if inFlow && c == ':' && rest.head?.any (fun d => isFlowChar d || d == '?') then none
    else if (c == ':' && atGap rest) || (inFlow && isFlowChar c) then done
    else readPlain inFlow indent (c :: gap.text.reverse ++ read) .empty (place.after c) rest

/-! ### Texts of whole lines -/

/-- What becomes of the breaks at the end of a block. -/
inductive Chomping where
  /-- The last one is kept. -/
  | clip
  /-- None is kept. -/
  | strip
  /-- All are kept. -/
  | keep
  deriving DecidableEq, Repr

/-- The header of a block. -/
structure BlockStyle where
  /-- Breaks between lines of the same indentation are folded. -/
  folded : Bool
  chomping : Chomping
  deriving DecidableEq, Repr

/-- A block that has been read in part. -/
structure BlockState where
  /-- The text so far, the latest first. -/
  read : List Char
  /-- The columns before every line, as soon as they are known. -/
  indent : Option Nat
  /-- The largest number of columns so far before a break or the first line. -/
  widest : Nat
  /-- The break after the last line. -/
  lastBreak : Option Char
  /-- Breaks of empty lines after that, the latest first. -/
  emptyLines : List Char
  /-- The last line began with a blank. -/
  afterBlank : Bool
  /-- The next character belongs to a line that has begun. -/
  inLine : Bool

namespace BlockState

/-- The text before the next line, the latest first, when the line begins with a
blank or not. -/
def joined (style : BlockStyle) (state : BlockState) (beginsBlank : Bool) : List Char :=
  let folds := style.folded && state.lastBreak == some '\n' && !state.afterBlank && !beginsBlank
  let before :=
    if folds then (if state.emptyLines.isEmpty then [' '] else [])
    else state.lastBreak.toList
  state.emptyLines ++ before.reverse ++ state.read

/-- The whole text. -/
def finish (style : BlockStyle) (state : BlockState) : List Char :=
  let lastBreak := if style.chomping = .strip then [] else state.lastBreak.toList
  let emptyLines := if style.chomping = .keep then state.emptyLines else []
  (emptyLines ++ lastBreak ++ state.read).reverse

end BlockState

/-- The text of a block and the cursor after it. `least` is the smallest number
of columns before its lines. -/
def readBlock (style : BlockStyle) (least : Nat) (state : BlockState) (place : Place) :
    List Char → Option (List Char × Cursor)
  | [] => some (state.finish style, ⟨[], place⟩)
  | c :: rest =>
    if state.inLine then
      if isBreak c then
        readBlock style least { state with lastBreak := some c, inLine := false } (place.after c) rest
      else readBlock style least { state with read := c :: state.read } (place.after c) rest
    else
      let before := state.indent.all (place.column < ·)
      let widest := max state.widest place.column
      if before && c == ' ' then readBlock style least state (place.after c) rest
      else if before && c == '\t' then none
      else if isBreak c then
        readBlock style least { state with widest := widest, emptyLines := c :: state.emptyLines } (place.after c) rest
      else
        let indent := state.indent.getD (max widest least)
        if place.column = indent then
          let read := c :: state.joined style (isBlank c)
          readBlock style least ⟨read, some indent, widest, none, [], isBlank c, true⟩ (place.after c) rest
        else some (state.finish style, ⟨c :: rest, place⟩)

end RecordRules.Yaml
