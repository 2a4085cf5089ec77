/-
White space and the trimming of texts. A text is a list of characters here;
`String` appears where values are stored.

* `Text.isBlank`: the white space of Unicode;
* `Text.trim`, `Text.trimLeft`, `Text.trimRight`: white space removed at the
  ends, with `Text.trimBoth` for any class of characters;
* `Text.isAllBlank_iff_trim`: a text is blank iff nothing is left of it.
-/

namespace RecordRules.Text

/-- White space: the characters with the Unicode property `White_Space`. -/
def isBlank (c : Char) : Bool :=
  let n := c.toNat
  (9 ≤ n && n ≤ 13) || n == 0x20 || n == 0x85 || n == 0xA0 || n == 0x1680 ||
    (0x2000 ≤ n && n ≤ 0x200A) || n == 0x2028 || n == 0x2029 || n == 0x202F ||
    n == 0x205F || n == 0x3000

/-- The white space that rule texts skip: space, tab, line feed, form feed and
carriage return. -/
def isAsciiBlank (c : Char) : Bool :=
  c == ' ' || c == '\t' || c == '\n' || c == '\x0c' || c == '\r'

/-- Drops the longest run of characters in `p` at the end. -/
def dropRightWhile (p : Char → Bool) (s : List Char) : List Char :=
  (s.reverse.dropWhile p).reverse

/-- Drops the longest runs of characters in `p` at both ends. -/
def trimBoth (p : Char → Bool) (s : List Char) : List Char :=
  dropRightWhile p (s.dropWhile p)

/-- The text without white space at its start. -/
def trimLeft (s : List Char) : List Char := s.dropWhile isBlank

/-- The text without white space at its end. -/
def trimRight (s : List Char) : List Char := dropRightWhile isBlank s

/-- The text without white space at both ends. -/
def trim (s : List Char) : List Char := trimBoth isBlank s

/-- Only white space, or nothing. -/
def isAllBlank (s : List Char) : Bool := s.all isBlank

/-! ### What trimming leaves -/

theorem dropWhile_eq_nil_iff (p : Char → Bool) (s : List Char) :
    s.dropWhile p = [] ↔ s.all p = true := by
  induction s with
  | nil => simp
  | cons c rest ih => by_cases h : p c <;> simp [h, ih]

theorem dropRightWhile_eq_nil_iff (p : Char → Bool) (s : List Char) :
    dropRightWhile p s = [] ↔ s.all p = true := by
  rw [dropRightWhile, List.reverse_eq_nil_iff, dropWhile_eq_nil_iff, List.all_reverse]

theorem all_of_all_dropWhile (p : Char → Bool) (s : List Char) (h : (s.dropWhile p).all p = true) :
    s.all p = true := by
  induction s with
  | nil => simp
  | cons c rest ih =>
    by_cases hc : p c
    · simp only [List.dropWhile_cons, hc, ↓reduceIte] at h
      simp only [List.all_cons, hc, ih h, Bool.and_self]
    · simp [hc] at h

/-- A text is blank iff nothing is left of it when it is trimmed. -/
theorem isAllBlank_iff_trim (s : List Char) : isAllBlank s = true ↔ trim s = [] := by
  rw [trim, trimBoth, dropRightWhile_eq_nil_iff, isAllBlank]
  constructor
  · intro h
    rw [(dropWhile_eq_nil_iff isBlank s).2 h]
    rfl
  · exact all_of_all_dropWhile isBlank s

end RecordRules.Text
