/-
The tokens of JSON texts.

A text is cut into tokens up to the first place that is malformed, where a last
token says so. A number that no double can hold and a string with half a
surrogate pair are tokens without a value: they are faults only where their
value is asked for.

* `Token.scanNumber`, `Token.scanString`: one literal and what follows it;
* `Token.tokens`: the tokens of a text.
-/
import RecordRules.Json.Value
import RecordRules.Decimal.Literal
import RecordRules.Text.CodeTable

namespace RecordRules.Json

/-- A token of a JSON text. -/
inductive Token where
  | openArray
  | closeArray
  | openObject
  | closeObject
  | comma
  | colon
  | null
  | bool (b : Bool)
  | number (value : Option JsonNumber)
  | string (value : Option String)
  | malformed
  deriving DecidableEq, Repr

namespace Token

/-! ### Strings -/

/-- A part of a string literal: a character, or a 16-bit unit written by its
number. -/
inductive Part where
  | char (c : Char)
  | unit (n : Nat)

/-- The character of a one-letter escape. -/
def simpleEscape? (c : Char) : Option Char :=
  if c = '"' ∨ c = '\\' ∨ c = '/' then some c
  else if c = 'b' then some '\x08'
  else if c = 'f' then some '\x0c'
  else if c = 'n' then some '\n'
  else if c = 'r' then some '\r'
  else if c = 't' then some '\t'
  else none

/-- The parts of a string up to its closing quote, and the text after that. -/
def scanString : List Char → Option (List Part × List Char)
  | [] => none
  | '"' :: rest => some ([], rest)
  | '\\' :: 'u' :: a :: b :: c :: d :: rest =>
    if [a, b, c, d].all (hexValue? · |>.isSome) then
      (scanString rest).map fun (parts, after) => (.unit (hexNumber [a, b, c, d]) :: parts, after)
    else none
  | '\\' :: e :: rest =>
    match simpleEscape? e with
    | some c => (scanString rest).map fun (parts, after) => (.char c :: parts, after)
    | none => none
  | c :: rest =>
    if c = '\\' ∨ c.toNat < 0x20 then none
    else (scanString rest).map fun (parts, after) => (.char c :: parts, after)

/-- A unit that begins a surrogate pair. -/
def isHighSurrogate (n : Nat) : Bool := 0xD800 ≤ n && n ≤ 0xDBFF

/-- A unit that ends a surrogate pair. -/
def isLowSurrogate (n : Nat) : Bool := 0xDC00 ≤ n && n ≤ 0xDFFF

/-- The characters of the parts; `none` if half a surrogate pair stands alone. -/
def joinParts? : List Part → Option (List Char)
  | [] => some []
  | .char c :: rest => (joinParts? rest).map (c :: ·)
  | .unit high :: .unit low :: rest =>
    if isHighSurrogate high then
      if isLowSurrogate low then
        (joinParts? rest).map (Char.ofNat (0x10000 + (high - 0xD800) * 0x400 + (low - 0xDC00)) :: ·)
      else none
    else if isLowSurrogate high then none
    else (joinParts? (.unit low :: rest)).map (Char.ofNat high :: ·)
  | .unit n :: rest =>
    if isHighSurrogate n || isLowSurrogate n then none
    else (joinParts? rest).map (Char.ofNat n :: ·)

/-! ### Numbers -/

/-- The digits at the start of a text, at least one, and the text after them. -/
def scanDigits (s : List Char) : Option (List Char × List Char) :=
  if s.takeWhile Char.isDigit = [] then none
  else some (s.takeWhile Char.isDigit, s.dropWhile Char.isDigit)

/-- The whole part of a number: a zero alone or digits that begin with another
one. -/
def scanWhole (s : List Char) : Option (List Char × List Char) :=
  match scanDigits s with
  | some ('0' :: _ :: _, _) => none
  | found => found

/-- The fraction of a number, if a point follows. -/
def scanFraction (s : List Char) : Option (Option (List Char) × List Char) :=
  match s with
  | '.' :: rest => (scanDigits rest).map fun (digits, after) => (some digits, after)
  | _ => some (none, s)

/-- The sign at the start of an exponent, `true` for a minus, and the text after
it. -/
def scanSign : List Char → Bool × List Char
  | '-' :: rest => (true, rest)
  | '+' :: rest => (false, rest)
  | s => (false, s)

/-- The exponent of a number, if its mark follows. -/
def scanExponent : List Char → Option (Option (Bool × List Char) × List Char)
  | [] => some (none, [])
  | c :: rest =>
    if c = 'e' ∨ c = 'E' then
      (scanDigits (scanSign rest).2).map fun (digits, after) => (some ((scanSign rest).1, digits), after)
    else some (none, c :: rest)

/-- A number without its sign, and the text after it. -/
def scanNumber (negative : Bool) (s : List Char) : Option (Literal × List Char) := do
  let (whole, s) ← scanWhole s
  let (fraction, s) ← scanFraction s
  let (exponent, s) ← scanExponent s
  some (⟨negative, whole, fraction, exponent⟩, s)

/-- The value of a number: an integer if the literal is one and fits into 64
bits, else a double. The integer `-0` is a double. -/
def numberValue? (literal : Literal) : Option JsonNumber :=
  let n : Int := if literal.negative then -(numberOf literal.whole : Int) else numberOf literal.whole
  if literal.fraction = none ∧ literal.exponent = none ∧ JsonNumber.int64Min ≤ n ∧ n < 18446744073709551616 ∧
      ¬ (literal.negative ∧ n = 0) then
    some (.integer n)
  else literal.stepwise?.map .double

/-! ### Whole texts -/

/-- The blanks between tokens. -/
def isBlank (c : Char) : Bool := c == ' ' || c == '\t' || c == '\n' || c == '\r'

/-- The token at the start of a text that does not begin with a blank, and the
text after it. A malformed token takes all of the text. -/
def next : List Char → Token × List Char
  | '[' :: rest => (openArray, rest)
  | ']' :: rest => (closeArray, rest)
  | '{' :: rest => (openObject, rest)
  | '}' :: rest => (closeObject, rest)
  | ',' :: rest => (comma, rest)
  | ':' :: rest => (colon, rest)
  | 'n' :: 'u' :: 'l' :: 'l' :: rest => (null, rest)
  | 't' :: 'r' :: 'u' :: 'e' :: rest => (bool true, rest)
  | 'f' :: 'a' :: 'l' :: 's' :: 'e' :: rest => (bool false, rest)
  | '"' :: rest =>
    match scanString rest with
    | some (parts, after) => (string ((joinParts? parts).map String.ofList), after)
    | none => (malformed, [])
  | '-' :: rest =>
    match scanNumber true rest with
    | some (literal, after) => (number (numberValue? literal), after)
    | none => (malformed, [])
  | s =>
    match scanNumber false s with
    | some (literal, after) => (number (numberValue? literal), after)
    | none => (malformed, [])

theorem length_of_map_cons {rest after : List Char} {part : Part} {parts : List Part} (n : Nat)
    (shorter : ∀ {parts : List Part} {after : List Char},
      scanString rest = some (parts, after) → after.length < rest.length)
    (h : (scanString rest).map (fun (p : List Part × List Char) => (part :: p.1, p.2)) =
      some (parts, after)) : after.length < rest.length + n := by
  obtain ⟨⟨parts', after'⟩, found, eq⟩ := Option.map_eq_some_iff.1 h
  simp only [Prod.mk.injEq] at eq
  have := shorter found
  rw [← eq.2]
  omega

theorem scanString_length {s after : List Char} {parts : List Part}
    (h : scanString s = some (parts, after)) : after.length < s.length := by
  fun_induction scanString s generalizing parts after with
  | case1 => simp at h
  | case2 rest => simp_all
  | case3 a b c d rest _ ih => exact length_of_map_cons 6 ih h
  | case4 => simp at h
  | case5 e rest _ c _ ih => exact length_of_map_cons 2 ih h
  | case6 => simp at h
  | case7 => simp at h
  | case8 c rest _ _ _ _ ih => exact length_of_map_cons 1 ih h

theorem scanDigits_length {s after digits : List Char} (h : scanDigits s = some (digits, after)) :
    after.length < s.length := by
  rw [scanDigits] at h
  split at h
  · simp at h
  · next some_digit =>
    simp only [Option.some.injEq, Prod.mk.injEq] at h
    rw [← h.2]
    have parts := congrArg List.length (List.takeWhile_append_dropWhile (p := Char.isDigit) (l := s))
    have := List.length_pos_iff.2 some_digit
    rw [List.length_append] at parts
    omega

theorem scanWhole_length {s after digits : List Char} (h : scanWhole s = some (digits, after)) :
    after.length < s.length := by
  rw [scanWhole] at h
  split at h
  · simp at h
  · exact scanDigits_length h

theorem scanFraction_length {s after : List Char} {fraction : Option (List Char)}
    (h : scanFraction s = some (fraction, after)) : after.length ≤ s.length := by
  rw [scanFraction.eq_def] at h
  split at h
  · obtain ⟨⟨digits, t⟩, found, eq⟩ := Option.map_eq_some_iff.1 h
    simp only [Prod.mk.injEq] at eq
    have := scanDigits_length found
    simp only [← eq.2, List.length_cons]
    omega
  · simp_all

theorem scanSign_length (s : List Char) : (scanSign s).2.length ≤ s.length := by
  rw [scanSign.eq_def]
  split <;> simp

theorem scanExponent_length {s after : List Char} {exponent : Option (Bool × List Char)}
    (h : scanExponent s = some (exponent, after)) : after.length ≤ s.length := by
  rw [scanExponent.eq_def] at h
  split at h
  · simp_all
  · next c rest =>
    split at h
    · obtain ⟨⟨digits, t⟩, found, eq⟩ := Option.map_eq_some_iff.1 h
      simp only [Prod.mk.injEq] at eq
      have taken := scanDigits_length found
      have sign := scanSign_length rest
      simp only [← eq.2, List.length_cons]
      omega
    · simp_all

theorem scanNumber_length {negative : Bool} {s after : List Char} {literal : Literal}
    (h : scanNumber negative s = some (literal, after)) : after.length < s.length := by
  simp only [scanNumber, Option.bind_eq_bind, Option.bind_eq_some_iff] at h
  obtain ⟨⟨whole, s₁⟩, hw, ⟨fraction, s₂⟩, hf, ⟨exponent, s₃⟩, he, rest⟩ := h
  simp only [Option.some.injEq, Prod.mk.injEq] at rest
  have h₁ := scanWhole_length hw
  have h₂ := scanFraction_length hf
  have h₃ := scanExponent_length he
  dsimp only at h₂ h₃
  rw [← rest.2]
  omega

/-- Every token takes some of the text. -/
theorem next_length (s : List Char) (h : s ≠ []) : (next s).2.length < s.length := by
  have positive := List.length_pos_iff.2 h
  rw [next.eq_def]
  split
  case h_10 rest =>
    split
    · next found =>
      have := scanString_length found
      simp only [List.length_cons]
      omega
    · exact positive
  case h_11 rest =>
    split
    · next found =>
      have := scanNumber_length found
      simp only [List.length_cons]
      omega
    · exact positive
  case h_12 =>
    split
    · next found => exact scanNumber_length found
    · exact positive
  all_goals simp only [List.length_cons]; omega

/-- The tokens of a text. -/
def tokens (s : List Char) : List Token :=
  match _h : s.dropWhile isBlank with
  | [] => []
  | c :: rest => (next (c :: rest)).1 :: tokens (next (c :: rest)).2
termination_by s.length
decreasing_by
  have shorter := next_length (c :: rest) (by simp)
  have whole := (List.dropWhile_sublist (l := s) isBlank).length_le
  simp only [_h] at whole
  omega

end Token

end RecordRules.Json
