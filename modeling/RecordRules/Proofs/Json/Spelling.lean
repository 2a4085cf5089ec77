/-
What JSON texts say.

* `CharText`, `StringText`, `KeyText`: the grammar of strings and keys;
* `Spells`, `SpellsItems`, `SpellsMembers`: a text writes a value, the items of an
  array, the members of an object;
* `stringText_escaped`: the text of a string writes the string;
* `spells_prettyChars`: **the text of a value over several lines writes the value**.
-/
import RecordRules.Json.Token
import RecordRules.Proofs.Decimal.NumberText

namespace RecordRules.Json

/-! ### The grammar -/

/-- White space. -/
def Blanks (s : List Char) : Prop := ∀ c ∈ s, c = ' ' ∨ c = '\t' ∨ c = '\n' ∨ c = '\r'

/-- A character of a string: itself, an escape by a letter, or its code in four hexadecimal
digits. Quotes, backslashes and control characters do not stand for themselves. -/
inductive CharText : Char → List Char → Prop where
  | plain {c : Char} (printable : 0x20 ≤ c.toNat) (no_quote : c ≠ '"') (no_backslash : c ≠ '\\') : CharText c [c]
  | escape {c letter : Char} (stands : Token.simpleEscape? letter = some c) : CharText c ['\\', letter]
  | code {c h₁ h₂ h₃ h₄ : Char} (hexadecimal : ∀ h ∈ [h₁, h₂, h₃, h₄], (hexValue? h).isSome = true)
      (value : hexNumber [h₁, h₂, h₃, h₄] = c.toNat) : CharText c ['\\', 'u', h₁, h₂, h₃, h₄]

/-- The characters of a string between its quotes. -/
inductive StringText : List Char → List Char → Prop where
  | nil : StringText [] []
  | cons {c : Char} {cs s rest : List Char} (first : CharText c s) (others : StringText cs rest) :
      StringText (c :: cs) (s ++ rest)

/-- A key in quotes, with white space around it. -/
inductive KeyText : String → List Char → Prop where
  | mk {key : String} {before s after : List Char} (blank : Blanks before) (written : StringText key.toList s)
      (blank' : Blanks after) : KeyText key (before ++ '"' :: (s ++ '"' :: after))

mutual

/-- A text writes a value. -/
inductive Spells : Json → List Char → Prop where
  | null : Spells .null ['n', 'u', 'l', 'l']
  | true : Spells (.bool true) ['t', 'r', 'u', 'e']
  | false : Spells (.bool false) ['f', 'a', 'l', 's', 'e']
  | number {n : JsonNumber} {s : List Char} (written : n.Spells s) : Spells (.number n) s
  | string {text : String} {s : List Char} (written : StringText text.toList s) :
      Spells (.string text) ('"' :: (s ++ ['"']))
  | emptyArray {gap : List Char} (blank : Blanks gap) : Spells (.array []) ('[' :: (gap ++ [']']))
  | array {items : List Json} {s : List Char} (written : SpellsItems items s) :
      Spells (.array items) ('[' :: (s ++ [']']))
  | emptyObject {gap : List Char} (blank : Blanks gap) : Spells (.object []) ('\x7b' :: (gap ++ ['\x7d']))
  | object {members : List (String × Json)} {s : List Char} (written : SpellsMembers members s) :
      Spells (.object members) ('\x7b' :: (s ++ ['\x7d']))
  /-- White space around a value says nothing. -/
  | padded {value : Json} {before s after : List Char} (blank : Blanks before) (written : Spells value s)
      (blank' : Blanks after) : Spells value (before ++ (s ++ after))

/-- A text writes items that commas separate, one or more. -/
inductive SpellsItems : List Json → List Char → Prop where
  | last {item : Json} {s : List Char} (written : Spells item s) : SpellsItems [item] s
  | cons {item : Json} {items : List Json} {s rest : List Char} (written : Spells item s)
      (others : SpellsItems items rest) : SpellsItems (item :: items) (s ++ ',' :: rest)

/-- A text writes members that commas separate, one or more. -/
inductive SpellsMembers : List (String × Json) → List Char → Prop where
  | last {key : String} {value : Json} {k s : List Char} (named : KeyText key k) (written : Spells value s) :
      SpellsMembers [(key, value)] (k ++ ':' :: s)
  | cons {key : String} {value : Json} {members : List (String × Json)} {k s rest : List Char}
      (named : KeyText key k) (written : Spells value s) (others : SpellsMembers members rest) :
      SpellsMembers ((key, value) :: members) (k ++ ':' :: (s ++ ',' :: rest))

end

/-! ### Strings -/

/-- A control character by its code. -/
lemma charText_control {c : Char} (control : c.toNat < 0x20) :
    CharText c ['\\', 'u', '0', '0', hexDigit (c.toNat / 16), hexDigit (c.toNat % 16)] := by
  have all : (List.range 0x20).all (fun n =>
      ['0', '0', hexDigit (n / 16), hexDigit (n % 16)].all (fun h => (hexValue? h).isSome) &&
        hexNumber ['0', '0', hexDigit (n / 16), hexDigit (n % 16)] == n) = Bool.true := by decide
  have here := List.all_eq_true.mp all c.toNat (List.mem_range.mpr control)
  rw [Bool.and_eq_true, List.all_eq_true, beq_iff_eq] at here
  exact .code here.1 here.2

lemma charText_escapedChar (c : Char) : CharText c (escapedChar c) := by
  by_cases quote : c = '"'
  · subst quote
    exact .escape rfl
  by_cases backslash : c = '\\'
  · subst backslash
    exact .escape rfl
  rw [escapedChar, if_neg quote, if_neg backslash]
  split
  · next same => exact same ▸ .escape rfl
  split
  · next same => exact same ▸ .escape rfl
  split
  · next same => exact same ▸ .escape rfl
  split
  · next same => exact same ▸ .escape rfl
  split
  · next same => exact same ▸ .escape rfl
  split
  · next control => exact charText_control control
  · next printable => exact .plain (not_lt.mp printable) quote backslash

/-- The characters of a string are written by their escapes. -/
lemma stringText_escaped (s : List Char) : StringText s (s.flatMap escapedChar) := by
  induction s with
  | nil => exact .nil
  | cons c rest ih => exact .cons (charText_escapedChar c) ih

lemma keyText_quoted (key : String) : KeyText key (quoted key) := by
  have none : Blanks [] := List.forall_mem_nil _
  exact .mk none (stringText_escaped key.toList) none

/-! ### White space -/

lemma Blanks.append {s t : List Char} (h : Blanks s) (h' : Blanks t) : Blanks (s ++ t) :=
  List.forall_mem_append.mpr ⟨h, h'⟩

lemma blanks_breakTo (level : ℕ) : Blanks (breakTo level) := by
  refine List.forall_mem_cons.mpr ⟨.inr (.inr (.inl rfl)), fun c mem => .inl (List.eq_of_mem_replicate mem)⟩

lemma Spells.padLeft {value : Json} {gap s : List Char} (blank : Blanks gap) (written : Spells value s) :
    Spells value (gap ++ s) := by
  have padded := written.padded blank (List.forall_mem_nil _)
  rwa [List.append_nil] at padded

lemma Spells.padRight {value : Json} {gap s : List Char} (written : Spells value s) (blank : Blanks gap) :
    Spells value (s ++ gap) :=
  written.padded (List.forall_mem_nil _) blank

/-- A value behind a space. -/
lemma Spells.space {value : Json} {s : List Char} (written : Spells value s) : Spells value (' ' :: s) := by
  have blank : Blanks [' '] := List.forall_mem_singleton.mpr (.inl rfl)
  exact written.padLeft blank

/-- White space before items says nothing. -/
lemma SpellsItems.padLeft {items : List Json} {gap s : List Char} (blank : Blanks gap)
    (written : SpellsItems items s) : SpellsItems items (gap ++ s) := by
  cases written with
  | last written => exact .last (written.padLeft blank)
  | cons written others =>
    rw [← List.append_assoc]
    exact .cons (written.padLeft blank) others

/-- White space behind items says nothing. -/
lemma SpellsItems.padRight {items : List Json} {gap s : List Char} (written : SpellsItems items s)
    (blank : Blanks gap) : SpellsItems items (s ++ gap) := by
  induction items generalizing s with
  | nil => cases written
  | cons item items ih =>
    cases written with
    | last written => exact .last (written.padRight blank)
    | cons written others =>
      rw [List.append_assoc, List.cons_append]
      exact .cons written (ih others)

lemma KeyText.padLeft {key : String} {gap s : List Char} (blank : Blanks gap) (named : KeyText key s) :
    KeyText key (gap ++ s) := by
  obtain ⟨before, written, after⟩ := named
  rw [← List.append_assoc]
  exact .mk (blank.append before) written after

/-- White space before members says nothing. -/
lemma SpellsMembers.padLeft {members : List (String × Json)} {gap s : List Char} (blank : Blanks gap)
    (written : SpellsMembers members s) : SpellsMembers members (gap ++ s) := by
  cases written with
  | last named written =>
    rw [← List.append_assoc]
    exact .last (named.padLeft blank) written
  | cons named written others =>
    rw [← List.append_assoc]
    exact .cons (named.padLeft blank) written others

/-- White space behind members says nothing. -/
lemma SpellsMembers.padRight {members : List (String × Json)} {gap s : List Char}
    (written : SpellsMembers members s) (blank : Blanks gap) : SpellsMembers members (s ++ gap) := by
  induction members generalizing s with
  | nil => cases written
  | cons member members ih =>
    cases written with
    | last named written =>
      rw [List.append_assoc, List.cons_append]
      exact .last named (written.padRight blank)
    | cons named written others =>
      rw [List.append_assoc, List.cons_append, List.append_assoc, List.cons_append]
      exact .cons named written (ih others)

/-! ### Values -/

mutual

/-- **The text of a value over several lines writes the value.** -/
theorem spells_prettyChars (level : ℕ) : ∀ value : Json, Spells value (value.prettyChars level)
  | .null => .null
  | .bool .true => .true
  | .bool .false => .false
  | .number n => .number n.spells_text
  | .string s => .string (stringText_escaped s.toList)
  | .array [] => .emptyArray (List.forall_mem_nil _)
  | .array (item :: rest) => by
    have written := spells_prettyItems (level + 1) (item :: rest) (List.cons_ne_nil _ _)
    exact .array ((written.padLeft (blanks_breakTo _)).padRight (blanks_breakTo _))
  | .object [] => .emptyObject (List.forall_mem_nil _)
  | .object (member :: rest) => by
    have written := spells_prettyMembers (level + 1) (member :: rest) (List.cons_ne_nil _ _)
    exact .object ((written.padLeft (blanks_breakTo _)).padRight (blanks_breakTo _))

lemma spells_prettyItems (level : ℕ) : ∀ items : List Json, items ≠ [] →
    SpellsItems items (prettyItems level items)
  | [], some_item => absurd rfl some_item
  | [item], _ => .last (spells_prettyChars level item)
  | item :: next :: rest, _ => by
    have others := spells_prettyItems level (next :: rest) (List.cons_ne_nil _ _)
    exact .cons (spells_prettyChars level item) (others.padLeft (blanks_breakTo level))

lemma spells_prettyMembers (level : ℕ) : ∀ members : List (String × Json), members ≠ [] →
    SpellsMembers members (prettyMembers level members)
  | [], some_member => absurd rfl some_member
  | [(key, value)], _ => .last (keyText_quoted key) (spells_prettyChars level value).space
  | (key, value) :: next :: rest, _ => by
    have others := spells_prettyMembers level (next :: rest) (List.cons_ne_nil _ _)
    exact .cons (keyText_quoted key) (spells_prettyChars level value).space (others.padLeft (blanks_breakTo level))

end

end RecordRules.Json
