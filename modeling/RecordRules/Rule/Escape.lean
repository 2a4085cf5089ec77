/-
Escapes in rule texts.

A backslash before one of `| : ; , ' " \` makes that character stand for
itself; before any other character it is a backslash.

* `RuleText.unescape`: the text that an escaped text stands for;
* `RuleText.escape`, `RuleText.escapeMessage`: the escaped forms of names and
  arguments, and of messages;
* `unescape_escape`, `unescape_escapeMessage`: they stand for what they escape.
-/

namespace RecordRules.RuleText

/-- The characters that a backslash can escape. -/
def isEscapable (c : Char) : Bool :=
  c == '|' || c == ':' || c == ';' || c == ',' || c == '\'' || c == '"' || c == '\\'

/-- The text that an escaped text stands for. -/
def unescape : List Char → List Char
  | [] => []
  | [c] => [c]
  | c :: d :: rest =>
    if c = '\\' ∧ isEscapable d then d :: unescape rest else c :: unescape (d :: rest)

/-- Puts a backslash before every character in `p`. -/
def escapeWhere (p : Char → Bool) : List Char → List Char
  | [] => []
  | c :: rest => if p c then '\\' :: c :: escapeWhere p rest else c :: escapeWhere p rest

/-- The characters that are escaped in names and arguments. -/
def needsEscape (c : Char) : Bool := c == '|' || c == ':' || c == ';' || c == ',' || c == '\\'

/-- The characters that are escaped in messages, which stand in single quotes. -/
def needsMessageEscape (c : Char) : Bool := c == '\'' || c == '\\'

/-- The escaped form of a name or an argument. -/
def escape (s : List Char) : List Char := escapeWhere needsEscape s

/-- The escaped form of a message. -/
def escapeMessage (s : List Char) : List Char := escapeWhere needsMessageEscape s

/-- Unescaping undoes every way of escaping that escapes the backslash and only
characters that can be escaped. -/
theorem unescape_escapeWhere (p : Char → Bool) (escapable : ∀ c, p c = true → isEscapable c = true)
    (backslash : p '\\' = true) (s : List Char) : unescape (escapeWhere p s) = s := by
  induction s with
  | nil => rfl
  | cons c rest ih =>
    rw [escapeWhere]
    split
    · next h => simp [unescape, escapable c h, ih]
    · next h =>
      have plain : c ≠ '\\' := fun eq => h (eq ▸ backslash)
      cases tail : escapeWhere p rest with
      | nil =>
        rw [tail] at ih
        simp only [unescape] at ih ⊢
        rw [← ih]
      | cons d more =>
        rw [tail] at ih
        simp [unescape, plain, ih]

theorem unescape_escape (s : List Char) : unescape (escape s) = s :=
  unescape_escapeWhere needsEscape
    (fun c h => by grind [needsEscape, isEscapable])
    rfl s

theorem unescape_escapeMessage (s : List Char) : unescape (escapeMessage s) = s :=
  unescape_escapeWhere needsMessageEscape
    (fun c h => by grind [needsMessageEscape, isEscapable])
    rfl s

end RecordRules.RuleText
