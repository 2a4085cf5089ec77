/-
Text functions: sanitizations that know only the text they change.

* `TextFunction`: the closed set of them;
* `TextFunction.apply`: the changed text.
-/
import RecordRules.Sanitizer.Markup
import RecordRules.Text.Blank
import RecordRules.Text.Case

namespace RecordRules

/-- The text functions. -/
inductive TextFunction where
  | lower
  | upper
  | capitalize
  | uncapitalize
  | capitalizeWords
  | reverse
  | trimLeft
  | trimRight
  | breakLines
  | stripTags
  | encodeMarkup
  | addSlashes
  | stripSlashes
  deriving DecidableEq, Repr

namespace TextFunction

/-- Every word, that is what follows white space or the start, begins with a
capital. -/
def capitalizeFrom (atStart : Bool) : List Char → List Char
  | [] => []
  | c :: rest => (if atStart then Text.upperChar c else [c]) ++ capitalizeFrom (Text.isBlank c) rest

/-- The markup of a line break. -/
def lineBreak : List Char := "<br />".toList

/-- Markup for a line break before every line end. -/
def insertBreaks : List Char → List Char
  | [] => []
  | '\r' :: '\n' :: rest => lineBreak ++ '\r' :: '\n' :: insertBreaks rest
  | c :: rest => (if c = '\r' ∨ c = '\n' then lineBreak else []) ++ c :: insertBreaks rest

/-- The entity of a character of markup. -/
def entity (c : Char) : List Char :=
  if c = '&' then "&amp;".toList
  else if c = '"' then "&quot;".toList
  else if c = '\'' then "&#039;".toList
  else if c = '<' then "&lt;".toList
  else if c = '>' then "&gt;".toList
  else [c]

/-- A backslash before quotes and backslashes, and `\0` for NUL. -/
def slashed (c : Char) : List Char :=
  if c = '\'' ∨ c = '"' ∨ c = '\\' then ['\\', c] else if c = '\x00' then ['\\', '0'] else [c]

/-- What a text with backslashes stands for. A backslash at the end is dropped. -/
def unslash : List Char → List Char
  | [] => []
  | [c] => if c = '\\' then [] else [c]
  | c :: d :: rest =>
    if c = '\\' then (if d = '0' then '\x00' else d) :: unslash rest else c :: unslash (d :: rest)

/-- The changed text. -/
def apply : TextFunction → List Char → List Char
  | lower, s => Text.lower s
  | upper, s => Text.upper s
  | capitalize, s => Text.capitalize s
  | uncapitalize, s => Text.uncapitalize s
  | capitalizeWords, s => capitalizeFrom true s
  | reverse, s => s.reverse
  | trimLeft, s => Text.trimLeft s
  | trimRight, s => Text.trimRight s
  | breakLines, s => insertBreaks s
  | stripTags, s => Markup.stripTags s
  | encodeMarkup, s => s.flatMap entity
  | addSlashes, s => s.flatMap slashed
  | stripSlashes, s => unslash s

/-- The text functions that are there from the start, by their names. -/
def defaults : List (String × TextFunction) :=
  [("strtolower", lower), ("strtoupper", upper), ("lower", lower), ("upper", upper),
   ("ucfirst", capitalize), ("lcfirst", uncapitalize), ("ucwords", capitalizeWords),
   ("strrev", reverse), ("ltrim", trimLeft), ("rtrim", trimRight), ("nl2br", breakLines),
   ("strip_tags", stripTags), ("htmlspecialchars", encodeMarkup), ("addslashes", addSlashes),
   ("stripslashes", stripSlashes)]

end TextFunction

end RecordRules
