/-
What JSON texts are read as.

* `EndsValue`: what may stand behind a value;
* `Token.scanString_append`, `Token.next_number`: one literal is taken off a text;
* `Plain`: a value that is not too deep, with 64-bit integers only;
* `Outline.Builds`: the reader turns a text into an outline, inside of any containers;
* `Outline.builds_of_spells`: it does so for texts that write values, and the outline has the
  value;
* `ofString?_of_spells`: **a text that writes a plain value is read as the value**.

Doubles are read with several roundings, so the last digit of one may be missed.
-/
import RecordRules.Json.Reader
import RecordRules.Proofs.Json.Spelling
import RecordRules.Proofs.Keyed

namespace RecordRules.Json

/-! ### Literals -/

/-- The characters that may stand behind a value. -/
def delimiters : List Char := [' ', '\t', '\n', '\r', ',', ']', '\x7d']

/-- A text that may stand behind a value. -/
def EndsValue (rest : List Char) : Prop := ∀ c ∈ rest.head?, c ∈ delimiters

lemma endsValue_cons {c : Char} (rest : List Char) (mem : c ∈ delimiters) : EndsValue (c :: rest) := by
  rintro _ ⟨⟩
  exact mem

lemma EndsValue.blanks {gap rest : List Char} (ends : EndsValue rest) (blank : Blanks gap) :
    EndsValue (gap ++ rest) := by
  cases gap with
  | nil => exact ends
  | cons c gap =>
    refine endsValue_cons _ ?_
    obtain rfl | rfl | rfl | rfl := blank c List.mem_cons_self
    all_goals decide

/-- What stands behind a value does not continue a number. -/
lemma EndsValue.head?_ne {rest : List Char} (ends : EndsValue rest) :
    ∀ c ∈ rest.head?, c.isDigit = false ∧ c ≠ '.' ∧ c ≠ 'e' ∧ c ≠ 'E' := by
  have all : delimiters.all (fun c => !c.isDigit && c != '.' && c != 'e' && c != 'E') = true := by decide
  intro c first
  have here := List.all_eq_true.mp all c (ends c first)
  simpa [and_assoc] using here

namespace Token

/-! #### Strings -/

lemma isSurrogate_toNat (c : Char) : isHighSurrogate c.toNat = false ∧ isLowSurrogate c.toNat = false := by
  have valid := c.valid
  have same : c.toNat = c.val.toNat := rfl
  simp only [isHighSurrogate, isLowSurrogate, Bool.and_eq_false_iff, decide_eq_false_iff_not]
  rcases valid with low | ⟨high, -⟩ <;> omega

/-- A unit that is a character by itself. -/
lemma joinParts?_unit (c : Char) (parts : List Part) :
    joinParts? (.unit c.toNat :: parts) = (joinParts? parts).map (c :: ·) := by
  obtain ⟨no_high, no_low⟩ := isSurrogate_toNat c
  have same : Char.ofNat c.toNat = c := Char.ofNat_toNat c
  rcases parts with _ | ⟨_ | low, parts⟩
  all_goals simp [joinParts?, no_high, no_low, same]

lemma scanString_plain {c : Char} (printable : 0x20 ≤ c.toNat) (no_quote : c ≠ '"') (no_backslash : c ≠ '\\')
    (s : List Char) : scanString (c :: s) = (scanString s).map fun (parts, after) => (.char c :: parts, after) := by
  rw [scanString.eq_def]
  split <;> simp_all

lemma scanString_escape {letter c : Char} (stands : simpleEscape? letter = some c) (s : List Char) :
    scanString ('\\' :: letter :: s) = (scanString s).map fun (parts, after) => (.char c :: parts, after) := by
  have no_code : letter ≠ 'u' := by
    rintro rfl
    cases stands
  rw [scanString]
  · rw [stands]
  · exact fun _ _ _ _ _ letter_u _ => no_code letter_u

lemma scanString_code {h₁ h₂ h₃ h₄ : Char} (hexadecimal : ∀ h ∈ [h₁, h₂, h₃, h₄], (hexValue? h).isSome = true)
    (s : List Char) : scanString ('\\' :: 'u' :: h₁ :: h₂ :: h₃ :: h₄ :: s) =
      (scanString s).map fun (parts, after) => (.unit (hexNumber [h₁, h₂, h₃, h₄]) :: parts, after) := by
  rw [scanString, if_pos (List.all_eq_true.mpr hexadecimal)]

/-- A string is taken off a text up to its closing quote. -/
lemma scanString_append {cs s : List Char} (written : StringText cs s) (after : List Char) :
    ∃ parts, scanString (s ++ '"' :: after) = some (parts, after) ∧ joinParts? parts = some cs := by
  induction written with
  | nil => exact ⟨[], rfl, rfl⟩
  | @cons c cs s rest first others ih =>
    obtain ⟨parts, scanned, joined⟩ := ih
    cases first with
    | plain printable no_quote no_backslash =>
      refine ⟨.char c :: parts, ?_, ?_⟩
      · rw [List.append_assoc, List.singleton_append, scanString_plain printable no_quote no_backslash, scanned]
        rfl
      · rw [joinParts?, joined]
        rfl
    | escape stands =>
      refine ⟨.char c :: parts, ?_, ?_⟩
      · rw [List.append_assoc, List.cons_append, List.singleton_append, scanString_escape stands, scanned]
        rfl
      · rw [joinParts?, joined]
        rfl
    | code hexadecimal value =>
      refine ⟨.unit c.toNat :: parts, ?_, ?_⟩
      · rw [← value]
        refine (scanString_code hexadecimal (rest ++ '"' :: after)).trans ?_
        rw [scanned]
        rfl
      · rw [joinParts?_unit, joined]
        rfl

lemma next_string {text : String} {s : List Char} (written : StringText text.toList s) (rest : List Char) :
    next ('"' :: (s ++ '"' :: rest)) = (string (some text), rest) := by
  obtain ⟨parts, scanned, joined⟩ := scanString_append written rest
  rw [next, scanned]
  dsimp only
  rw [joined, Option.map_some, String.ofList_toList]

/-! #### Numbers -/

variable {digits whole point power rest : List Char} {fraction : Option (List Char)}
  {exponent : Option (Bool × List Char)}

lemma scanDigits_append (some_digit : digits ≠ []) (all : ∀ c ∈ digits, c.isDigit = true)
    (stops : Text.StartsOutside Char.isDigit rest) : scanDigits (digits ++ rest) = some (digits, rest) := by
  rw [scanDigits, stops.takeWhile_append all, stops.dropWhile_append all, if_neg some_digit]

lemma scanWhole_append (all : ∀ c ∈ whole, c.isDigit = true)
    (leading : whole = ['0'] ∨ whole ≠ [] ∧ whole.head? ≠ some '0') (stops : Text.StartsOutside Char.isDigit rest) :
    scanWhole (whole ++ rest) = some (whole, rest) := by
  rw [scanWhole, scanDigits_append (ne_nil_of_leading leading) all stops]
  split
  · next same =>
    cases same
    rcases leading with same | ⟨-, other⟩
    · cases same
    · exact absurd rfl other
  · rfl

lemma scanFraction_append (fractional : FractionText Char.isDigit fraction point) (some_digit : fraction ≠ some [])
    (stops : ∀ c ∈ rest.head?, c.isDigit = false ∧ c ≠ '.') :
    scanFraction (point ++ rest) = some (fraction, rest) := by
  cases fractional with
  | none =>
    rw [List.nil_append, scanFraction.eq_def]
    split
    · exact absurd rfl (stops '.' rfl).2
    · rfl
  | @some digits all =>
    have nonempty : digits ≠ [] := fun empty => some_digit (congrArg some empty)
    rw [List.cons_append, scanFraction, scanDigits_append nonempty all fun c first => (stops c first).1]
    rfl

lemma scanSign_append {negative : Bool} {sign : List Char} (signed : SignText negative sign) (some_digit : digits ≠ [])
    (all : ∀ c ∈ digits, c.isDigit = true) (rest : List Char) :
    scanSign (sign ++ (digits ++ rest)) = (negative, digits ++ rest) := by
  cases signed with
  | plus | minus => rfl
  | none =>
    obtain ⟨d, digits, rfl⟩ := List.exists_cons_of_ne_nil some_digit
    have digit := all d List.mem_cons_self
    rw [List.nil_append, List.cons_append, scanSign.eq_def]
    split
    · next same =>
      cases same
      exact absurd digit (by decide)
    · next same =>
      cases same
      exact absurd digit (by decide)
    · rfl

lemma scanExponent_append (exponential : ExponentText Char.isDigit exponent power)
    (stops : ∀ c ∈ rest.head?, c.isDigit = false ∧ c ≠ '.' ∧ c ≠ 'e' ∧ c ≠ 'E') :
    scanExponent (power ++ rest) = some (exponent, rest) := by
  cases exponential with
  | none =>
    cases rest with
    | nil => rfl
    | cons c rest =>
      obtain ⟨-, -, no_mark⟩ := stops c rfl
      rw [List.nil_append, scanExponent, if_neg (not_or.mpr no_mark)]
  | some either signed some_digit all =>
    rw [List.cons_append, List.append_assoc, scanExponent, if_pos either, scanSign_append signed some_digit all,
      scanDigits_append some_digit all fun c first => (stops c first).1]
    rfl

/-- A number without its sign is taken off a text up to what does not continue it. -/
lemma scanNumber_append {literal : Literal} (all : ∀ c ∈ literal.whole, c.isDigit = true)
    (leading : literal.whole = ['0'] ∨ literal.whole ≠ [] ∧ literal.whole.head? ≠ some '0')
    (fractional : FractionText Char.isDigit literal.fraction point) (some_digit : literal.fraction ≠ some [])
    (exponential : ExponentText Char.isDigit literal.exponent power) (ends : EndsValue rest) :
    scanNumber literal.negative (literal.whole ++ (point ++ (power ++ rest))) = some (literal, rest) := by
  obtain ⟨negative, whole, fraction, exponent⟩ := literal
  have behind_power := ends.head?_ne
  have behind_point : ∀ c ∈ (power ++ rest).head?, c.isDigit = false ∧ c ≠ '.' := by
    cases exponential with
    | none => exact fun c first => ⟨(behind_power c first).1, (behind_power c first).2.1⟩
    | some either =>
      rintro _ ⟨⟩
      obtain rfl | rfl := either <;> decide
  have behind_whole : Text.StartsOutside Char.isDigit (point ++ (power ++ rest)) := by
    cases fractional with
    | none => exact fun c first => (behind_point c first).1
    | some =>
      rintro _ ⟨⟩
      rfl
  rw [scanNumber, scanWhole_append all leading behind_whole]
  simp only [Option.bind_eq_bind, Option.bind_some]
  rw [scanFraction_append fractional some_digit behind_point]
  simp only [Option.bind_some]
  rw [scanExponent_append exponential behind_power]
  rfl

lemma next_digit {c : Char} (digit : c.isDigit = true) (s : List Char) :
    next (c :: s) = match scanNumber false (c :: s) with
      | some (literal, after) => (number (numberValue? literal), after)
      | none => (malformed, []) := by
  rw [next.eq_def]
  split
  all_goals
    first
    | rfl
    | next same =>
      rw [(List.cons.inj same).1] at digit
      exact absurd digit (by decide)

/-- A number is taken off a text up to what does not continue it. -/
lemma next_number {literal : Literal} {s : List Char} (written : NumberText literal s) (ends : EndsValue rest) :
    next (s ++ rest) = (number (numberValue? literal), rest) := by
  obtain ⟨all, leading, fractional, some_digit, exponential⟩ := written
  have scanned := scanNumber_append all leading fractional some_digit exponential ends
  rw [List.append_assoc, List.append_assoc, List.append_assoc]
  cases negative : literal.negative with
  | true =>
    rw [negative] at scanned
    rw [if_pos rfl, List.singleton_append, next, scanned]
  | false =>
    rw [negative] at scanned
    rw [if_neg Bool.false_ne_true, List.nil_append]
    obtain ⟨d, digits, parts⟩ := List.exists_cons_of_ne_nil (ne_nil_of_leading leading)
    rw [parts] at all scanned ⊢
    rw [List.cons_append] at scanned ⊢
    rw [next_digit (all d List.mem_cons_self), scanned]

lemma numberValue?_integer {n : ℤ} {digits : List Char} (value : numberOf digits = n.natAbs)
    (least : JsonNumber.int64Min ≤ n) (largest : n < 18446744073709551616) :
    numberValue? ⟨decide (n < 0), digits, none, none⟩ = some (.integer n) := by
  have signed : (if decide (n < 0) = true then -(numberOf digits : ℤ) else numberOf digits) = n := by
    rw [value]
    split
    · next negative =>
      have negative := of_decide_eq_true negative
      omega
    · next other =>
      have other := of_decide_eq_false (Bool.eq_false_iff.mpr other)
      omega
  rw [numberValue?]
  dsimp only
  rw [signed, if_pos]
  refine ⟨rfl, rfl, least, largest, ?_⟩
  rintro ⟨negative, zero⟩
  exact absurd zero (of_decide_eq_true negative).ne

/-! #### Tokens -/

lemma isBlank_eq_true_iff {c : Char} : isBlank c = true ↔ c = ' ' ∨ c = '\t' ∨ c = '\n' ∨ c = '\r' := by
  simp [isBlank, or_assoc]

lemma tokens_nil : tokens [] = [] := by
  rw [tokens]
  rfl

/-- White space has no tokens. -/
lemma tokens_blanks {gap : List Char} (blank : Blanks gap) (s : List Char) : tokens (gap ++ s) = tokens s := by
  have dropped : (gap ++ s).dropWhile isBlank = s.dropWhile isBlank :=
    List.dropWhile_append_of_pos fun c mem => isBlank_eq_true_iff.mpr (blank c mem)
  rw [tokens, tokens, dropped]

lemma tokens_cons {c : Char} {s rest : List Char} {token : Token} (dark : isBlank c = false)
    (taken : next (c :: s) = (token, rest)) : tokens (c :: s) = token :: tokens rest := by
  have kept : (c :: s).dropWhile isBlank = c :: s := List.dropWhile_cons_of_neg (by simp [dark])
  rw [tokens, kept]
  dsimp only
  rw [taken]

end Token

/-! ### Values -/

/-- A value with at most `depth` arrays and objects inside each other, without doubles and
repeated keys, whose integers have 64 bits. -/
inductive Plain : ℕ → Json → Prop where
  | null {depth : ℕ} : Plain depth .null
  | bool {depth : ℕ} {b : Bool} : Plain depth (.bool b)
  | integer {depth : ℕ} {n : ℤ} (least : JsonNumber.int64Min ≤ n) (largest : n < 18446744073709551616) :
      Plain depth (.number (.integer n))
  | string {depth : ℕ} {text : String} : Plain depth (.string text)
  | array {depth : ℕ} {items : List Json} (all : ∀ item ∈ items, Plain depth item) : Plain (depth + 1) (.array items)
  | object {depth : ℕ} {members : List (String × Json)} (nodup : (members.map (·.1)).Nodup)
      (all : ∀ member ∈ members, Plain depth member.2) : Plain (depth + 1) (.object members)

namespace Outline

open Token

variable {state state' : State} {stack : List Frame} {s : List Char}

/-- A state in which a value is due that goes into the stack. -/
def AwaitsValue (state : State) (stack : List Frame) : Prop :=
  ∀ token, token ≠ .closeArray → step state token = startValue stack token

/-- A state in which a key is due, behind some members. -/
def AwaitsKey (state : State) (stack : List Frame) (members : List (Option String × Outline)) : Prop :=
  ∀ key, step state (.string key) = some ⟨stack, .colon members key⟩

lemma awaitsValue_value (stack : List Frame) : AwaitsValue ⟨stack, .value⟩ stack := fun _ _ => rfl

lemma awaitsValue_firstItem (stack : List Frame) : AwaitsValue ⟨stack, .firstItem⟩ stack := by
  intro token other
  cases token <;> first | rfl | exact absurd rfl other

/-- A text moves the reader from one state to another, if what follows may stand behind a
value. -/
def Moves (s : List Char) (state state' : State) : Prop :=
  ∀ rest, EndsValue rest → build state (tokens (s ++ rest)) = build state' (tokens rest)

/-- One token. -/
lemma build_token {c : Char} {rest : List Char} {token : Token} (dark : Token.isBlank c = false)
    (taken : next (c :: s) = (token, rest)) (moved : step state token = some state') :
    build state (tokens (c :: s)) = build state' (tokens rest) := by
  rw [tokens_cons dark taken, build, moved]

lemma Moves.padded {before after : List Char} (moves : Moves s state state') (blank : Blanks before)
    (blank' : Blanks after) : Moves (before ++ (s ++ after)) state state' := by
  intro rest ends
  rw [List.append_assoc, List.append_assoc, tokens_blanks blank, moves _ (ends.blanks blank'), tokens_blanks blank']

/-- A text that writes a value builds an outline with the value. -/
def Builds (value : Json) (s : List Char) : Prop :=
  ∃ outline, (∀ depth, Plain depth value → outline.value? depth = some value) ∧
    ∀ state stack, AwaitsValue state stack → Moves s state (deliver outline stack)

/-- A text that writes items builds their outlines inside of an array. -/
def BuildsItems (items : List Json) (s : List Char) : Prop :=
  ∃ outlines : List Outline,
    (∀ depth, (∀ item ∈ items, Plain depth item) → values? depth outlines = some items) ∧
    ∀ state stack before, AwaitsValue state (.array before :: stack) →
      Moves s state ⟨stack, .afterItem (outlines.reverse ++ before)⟩

/-- A text that writes members builds their outlines inside of an object. -/
def BuildsMembers (members : List (String × Json)) (s : List Char) : Prop :=
  ∃ outlines : List (Option String × Outline),
    (∀ depth, (∀ member ∈ members, Plain depth member.2) → ∀ before : Members,
      (before.map (·.1) ++ members.map (·.1)).Nodup → membersOf? depth before outlines = some (before ++ members)) ∧
    ∀ state stack before, AwaitsKey state stack before →
      Moves s state ⟨stack, .afterMember (outlines.reverse ++ before)⟩

/-- A value of one token. -/
lemma builds_of_token {value : Json} {outline : Outline} {c : Char} {token : Token} (dark : Token.isBlank c = false)
    (has : ∀ depth, Plain depth value → outline.value? depth = some value) (other : token ≠ .closeArray)
    (started : ∀ stack, startValue stack token = some (deliver outline stack))
    (taken : ∀ rest, EndsValue rest → next (c :: (s ++ rest)) = (token, rest)) : Builds value (c :: s) := by
  refine ⟨outline, has, fun state stack awaits rest ends => ?_⟩
  exact build_token dark (taken rest ends) ((awaits token other).trans (started stack))

/-! #### One constructor -/

lemma exists_cons_of_numberText {literal : Literal} (written : NumberText literal s) :
    ∃ c rest, s = c :: rest ∧ Token.isBlank c = false := by
  have dark : ∀ c : Char, c.isDigit = true → Token.isBlank c = false := by
    intro c digit
    by_contra blank
    obtain rfl | rfl | rfl | rfl := Token.isBlank_eq_true_iff.mp (Bool.not_eq_false _ ▸ blank)
    all_goals cases digit
  obtain ⟨all, leading, -, -, -⟩ := written
  obtain ⟨d, digits, parts⟩ := List.exists_cons_of_ne_nil (ne_nil_of_leading leading)
  rw [parts] at all ⊢
  cases literal.negative with
  | true => exact ⟨_, _, rfl, rfl⟩
  | false => exact ⟨_, _, rfl, dark d (all d List.mem_cons_self)⟩

lemma builds_number {n : JsonNumber} (written : n.Spells s) : Builds (.number n) s := by
  have ⟨literal, text, value⟩ : ∃ literal, NumberText literal s ∧
      ∀ depth, Plain depth (.number n) → numberValue? literal = some n := by
    cases written with
    | integer text value =>
      refine ⟨_, text, fun depth plain => ?_⟩
      cases plain with
      | integer least largest => exact numberValue?_integer value least largest
    | double text =>
      refine ⟨_, text, fun depth plain => ?_⟩
      cases plain
  obtain ⟨c, rest, rfl, dark⟩ := exists_cons_of_numberText text
  have has : ∀ depth, Plain depth (.number n) →
      (Outline.number (numberValue? literal)).value? depth = some (.number n) := by
    intro depth plain
    rw [value?, value depth plain]
    rfl
  have other : Token.number (numberValue? literal) ≠ .closeArray := by rintro ⟨⟩
  exact builds_of_token dark has other (fun _ => rfl) fun behind ends => next_number text ends

lemma builds_string {text : String} (written : StringText text.toList s) :
    Builds (.string text) ('"' :: (s ++ ['"'])) := by
  have has : ∀ depth, Plain depth (.string text) → (Outline.string (some text)).value? depth = some (.string text) :=
    fun _ _ => rfl
  have other : Token.string (some text) ≠ .closeArray := by rintro ⟨⟩
  refine builds_of_token rfl has other (fun _ => rfl) fun rest _ => ?_
  rw [List.append_assoc]
  exact next_string written rest

/-- What stands between brackets moves the reader on from the opening one to the closing one. -/
lemma build_brackets {o c : Char} {opening closing : Token} {inside last final : State}
    (dark : Token.isBlank o = false) (taken : ∀ rest, next (o :: rest) = (opening, rest))
    (opened : step state opening = some inside)
    (moved : ∀ rest, build inside (tokens (s ++ c :: rest)) = build last (tokens (c :: rest)))
    (dark' : Token.isBlank c = false) (taken' : ∀ rest, next (c :: rest) = (closing, rest))
    (closed : step last closing = some final) (rest : List Char) :
    build state (tokens (o :: (s ++ [c]) ++ rest)) = build final (tokens rest) := by
  have begun := build_token dark (taken (s ++ c :: rest)) opened
  have ended := build_token dark' (taken' rest) closed
  rw [List.cons_append, List.append_assoc, List.singleton_append]
  exact begun.trans ((moved rest).trans ended)

lemma builds_emptyArray {gap : List Char} (blank : Blanks gap) : Builds (.array []) ('[' :: (gap ++ [']'])) := by
  refine ⟨.array [], fun depth plain => ?_, fun state stack awaits rest _ => ?_⟩
  · cases plain
    rfl
  · have opened := awaits .openArray (by decide)
    exact build_brackets rfl (fun _ => rfl) opened (fun _ => by rw [tokens_blanks blank]) rfl (fun _ => rfl) rfl rest

lemma builds_array {items : List Json} (built : BuildsItems items s) : Builds (.array items) ('[' :: (s ++ [']'])) := by
  obtain ⟨outlines, has, moves⟩ := built
  refine ⟨.array outlines, fun depth plain => ?_, fun state stack awaits rest _ => ?_⟩
  · cases plain with
    | @array depth _ all =>
      rw [value?, if_neg (Nat.succ_ne_zero depth), Nat.add_sub_cancel, has depth all]
      rfl
  · have opened := awaits .openArray (by decide)
    have moved := moves _ stack [] (awaitsValue_firstItem _)
    have closed : step ⟨stack, .afterItem (outlines.reverse ++ [])⟩ .closeArray =
        some (deliver (.array (outlines.reverse ++ []).reverse) stack) := rfl
    rw [List.append_nil, List.reverse_reverse] at closed
    rw [List.append_nil] at moved
    exact build_brackets rfl (fun _ => rfl) opened (fun rest => moved _ (endsValue_cons rest (by decide))) rfl
      (fun _ => rfl) closed rest

lemma builds_emptyObject {gap : List Char} (blank : Blanks gap) :
    Builds (.object []) ('\x7b' :: (gap ++ ['\x7d'])) := by
  refine ⟨.object [], fun depth plain => ?_, fun state stack awaits rest _ => ?_⟩
  · cases plain
    rfl
  · have opened := awaits .openObject (by decide)
    exact build_brackets rfl (fun _ => rfl) opened (fun _ => by rw [tokens_blanks blank]) rfl (fun _ => rfl) rfl rest

lemma builds_object {members : List (String × Json)} (built : BuildsMembers members s) :
    Builds (.object members) ('\x7b' :: (s ++ ['\x7d'])) := by
  obtain ⟨outlines, has, moves⟩ := built
  refine ⟨.object outlines, fun depth plain => ?_, fun state stack awaits rest _ => ?_⟩
  · cases plain with
    | @object depth _ nodup all =>
      rw [value?, if_neg (Nat.succ_ne_zero depth), Nat.add_sub_cancel, has depth all [] nodup]
      rfl
  · have opened := awaits .openObject (by decide)
    have moved := moves ⟨stack, .firstKey⟩ stack [] (fun _ => rfl)
    have closed : step ⟨stack, .afterMember (outlines.reverse ++ [])⟩ .closeObject =
        some (deliver (.object (outlines.reverse ++ []).reverse) stack) := rfl
    rw [List.append_nil, List.reverse_reverse] at closed
    rw [List.append_nil] at moved
    exact build_brackets rfl (fun _ => rfl) opened (fun rest => moved _ (endsValue_cons rest (by decide))) rfl
      (fun _ => rfl) closed rest

/-! #### Items and members -/

lemma buildsItems_last {item : Json} (built : Builds item s) : BuildsItems [item] s := by
  obtain ⟨outline, has, moves⟩ := built
  refine ⟨[outline], fun depth all => ?_, fun state stack before awaits => moves state _ awaits⟩
  rw [values?, has depth (all item List.mem_cons_self)]
  rfl

lemma buildsItems_cons {item : Json} {items : List Json} {rest : List Char} (built : Builds item s)
    (others : BuildsItems items rest) : BuildsItems (item :: items) (s ++ ',' :: rest) := by
  obtain ⟨outline, has, moves⟩ := built
  obtain ⟨outlines, have_all, moves_on⟩ := others
  refine ⟨outline :: outlines, fun depth all => ?_, fun state stack before awaits behind ends => ?_⟩
  · obtain ⟨first, later⟩ := List.forall_mem_cons.mp all
    rw [values?, has depth first]
    simp only [Option.bind_eq_bind, Option.bind_some]
    rw [have_all depth later]
    rfl
  · have begun := moves state _ awaits (',' :: (rest ++ behind)) (endsValue_cons _ (by decide))
    have separated : build (deliver outline (.array before :: stack)) (tokens (',' :: (rest ++ behind))) =
        build ⟨.array (outline :: before) :: stack, .value⟩ (tokens (rest ++ behind)) := build_token rfl rfl rfl
    have ended := moves_on _ stack (outline :: before) (awaitsValue_value _) behind ends
    rw [List.append_assoc, List.cons_append, List.reverse_cons, List.append_assoc]
    exact begun.trans (separated.trans ended)

/-- A key with its colon. -/
lemma build_key {key : String} {k : List Char} {members : List (Option String × Outline)} (named : KeyText key k)
    (awaits : AwaitsKey state stack members) (rest : List Char) :
    build state (tokens (k ++ ':' :: rest)) = build ⟨.object members (some key) :: stack, .value⟩ (tokens rest) := by
  obtain ⟨blank, written, blank'⟩ := named
  rw [List.append_assoc, List.cons_append, List.append_assoc, List.cons_append, tokens_blanks blank,
    build_token rfl (next_string written _) (awaits (some key)), tokens_blanks blank']
  exact build_token rfl rfl rfl

lemma buildsMembers_last {key : String} {value : Json} {k : List Char} (named : KeyText key k)
    (built : Builds value s) : BuildsMembers [(key, value)] (k ++ ':' :: s) := by
  obtain ⟨outline, has, moves⟩ := built
  refine ⟨[(some key, outline)], fun depth all before nodup => ?_, fun state stack before awaits rest ends => ?_⟩
  · have absent : key ∉ before.keys := (List.nodup_append_comm.mp nodup |> List.nodup_cons.mp).1
    rw [membersOf?, has depth (all _ List.mem_cons_self)]
    simp only [Option.bind_eq_bind, Option.bind_some]
    rw [membersOf?, Keyed.put_of_notMem absent]
  · rw [List.append_assoc, List.cons_append]
    exact (build_key named awaits _).trans (moves _ _ (awaitsValue_value _) rest ends)

lemma buildsMembers_cons {key : String} {value : Json} {members : List (String × Json)} {k rest : List Char}
    (named : KeyText key k) (built : Builds value s) (others : BuildsMembers members rest) :
    BuildsMembers ((key, value) :: members) (k ++ ':' :: (s ++ ',' :: rest)) := by
  obtain ⟨outline, has, moves⟩ := built
  obtain ⟨outlines, have_all, moves_on⟩ := others
  refine ⟨(some key, outline) :: outlines, fun depth all before nodup => ?_,
    fun state stack before awaits behind ends => ?_⟩
  · obtain ⟨first, later⟩ := List.forall_mem_cons.mp all
    have absent : key ∉ before.keys := fun mem =>
      (List.nodup_append.mp nodup).2.2 key mem key List.mem_cons_self rfl
    have nodup' : ((before ++ [(key, value)]).map (·.1) ++ members.map (·.1)).Nodup := by
      rwa [List.map_append, List.append_assoc]
    rw [membersOf?, has depth first]
    simp only [Option.bind_eq_bind, Option.bind_some]
    rw [Keyed.put_of_notMem absent, have_all depth later _ nodup', List.append_assoc]
    rfl
  · have begun := build_key named awaits (s ++ ',' :: (rest ++ behind))
    have valued := moves _ _ (awaitsValue_value (.object before (some key) :: stack)) (',' :: (rest ++ behind))
      (endsValue_cons _ (by decide))
    have separated : build (deliver outline (.object before (some key) :: stack)) (tokens (',' :: (rest ++ behind))) =
        build ⟨stack, .key ((some key, outline) :: before)⟩ (tokens (rest ++ behind)) := build_token rfl rfl rfl
    have ended := moves_on ⟨stack, .key ((some key, outline) :: before)⟩ stack _ (fun _ => rfl) behind ends
    rw [List.append_assoc, List.cons_append, List.append_assoc, List.cons_append, List.reverse_cons, List.append_assoc]
    exact begun.trans (valued.trans (separated.trans ended))

/-! #### All texts -/

mutual

/-- **A text that writes a value builds its outline.** -/
theorem builds_of_spells {value : Json} {s : List Char} : Spells value s → Builds value s
  | .null => builds_of_token rfl (fun _ _ => rfl) (by decide) (fun _ => rfl) fun _ _ => rfl
  | .true => builds_of_token rfl (fun _ _ => rfl) (by decide) (fun _ => rfl) fun _ _ => rfl
  | .false => builds_of_token rfl (fun _ _ => rfl) (by decide) (fun _ => rfl) fun _ _ => rfl
  | .number written => builds_number written
  | .string written => builds_string written
  | .emptyArray blank => builds_emptyArray blank
  | .array written => builds_array (builds_of_spellsItems written)
  | .emptyObject blank => builds_emptyObject blank
  | .object written => builds_object (builds_of_spellsMembers written)
  | .padded blank written blank' => by
    obtain ⟨outline, has, moves⟩ := builds_of_spells written
    exact ⟨outline, has, fun state stack awaits => (moves state stack awaits).padded blank blank'⟩

lemma builds_of_spellsItems {items : List Json} {s : List Char} : SpellsItems items s → BuildsItems items s
  | .last written => buildsItems_last (builds_of_spells written)
  | .cons written others => buildsItems_cons (builds_of_spells written) (builds_of_spellsItems others)

lemma builds_of_spellsMembers {members : List (String × Json)} {s : List Char} :
    SpellsMembers members s → BuildsMembers members s
  | .last named written => buildsMembers_last named (builds_of_spells written)
  | .cons named written others =>
    buildsMembers_cons named (builds_of_spells written) (builds_of_spellsMembers others)

end

end Outline

/-- **A text that writes a plain value is read as the value.** -/
theorem ofString?_of_spells {value : Json} {text : String} (written : Spells value text.toList)
    (plain : Plain maxDepth value) : ofString? text = some value := by
  obtain ⟨outline, has, moves⟩ := Outline.builds_of_spells written
  have built := moves Outline.start [] (Outline.awaitsValue_value []) [] (by rintro _ ⟨⟩)
  rw [List.append_nil, Token.tokens_nil] at built
  have whole : Outline.ofChars text.toList = (outline, true) := built
  rw [ofString?, ofChars?, whole]
  exact has maxDepth plain

end RecordRules.Json
