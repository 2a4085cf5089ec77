/-
How decimal literals are written.

* `FractionText`, `ExponentText`, `MagnitudeText`, `LiteralText`: the grammar of
  literals, over a class of digits;
* `LiteralText.isDigit_or_mark`, `LiteralText.of_digits`: the characters of a literal,
  and the class of its digits;
* `Shape.numericLiteral?_eq_some_iff`: a text is read as a literal iff it is one in
  digits of any script when it is trimmed;
* `Shape.number?_eq_some_iff`: it has a value iff it is one in ASCII digits.
-/
import RecordRules.Proofs.Decimal.Digits
import RecordRules.Proofs.Text.Trimming

namespace RecordRules

/-! ### The grammar -/

/-- The fraction of a literal: a point and any number of digits, or nothing. -/
inductive FractionText (p : Char → Bool) : Option (List Char) → List Char → Prop where
  | none : FractionText p none []
  | some {digits : List Char} (all : ∀ c ∈ digits, p c = true) : FractionText p (some digits) ('.' :: digits)

/-- The exponent of a literal: a letter, an optional sign and one or more digits, or
nothing. -/
inductive ExponentText (p : Char → Bool) : Option (Bool × List Char) → List Char → Prop where
  | none : ExponentText p none []
  | some {letter : Char} {negative : Bool} {sign digits : List Char} (either : letter = 'e' ∨ letter = 'E')
      (signed : SignText negative sign) (some_digit : digits ≠ []) (all : ∀ c ∈ digits, p c = true) :
      ExponentText p (some (negative, digits)) (letter :: (sign ++ digits))

/-- A literal without its sign: digits, the fraction and the exponent. There is a digit
before the point or behind it. -/
inductive MagnitudeText (p : Char → Bool) :
    List Char → Option (List Char) → Option (Bool × List Char) → List Char → Prop where
  | mk {whole point power : List Char} {fraction : Option (List Char)} {exponent : Option (Bool × List Char)}
      (all : ∀ c ∈ whole, p c = true) (fractional : FractionText p fraction point)
      (some_digit : whole ++ fraction.getD [] ≠ []) (exponential : ExponentText p exponent power) :
      MagnitudeText p whole fraction exponent (whole ++ (point ++ power))

/-- A literal with digits of a class. -/
inductive LiteralText (p : Char → Bool) : Literal → List Char → Prop where
  | mk {negative : Bool} {sign whole body : List Char} {fraction : Option (List Char)}
      {exponent : Option (Bool × List Char)} (signed : SignText negative sign)
      (magnitude : MagnitudeText p whole fraction exponent body) :
      LiteralText p ⟨negative, whole, fraction, exponent⟩ (sign ++ body)

/-! ### Classes of digits -/

variable {p q : Char → Bool} {s : List Char} {literal : Literal}

lemma SignText.mem_numberMarks {negative : Bool} (signed : SignText negative s) : ∀ c ∈ s, c ∈ numberMarks := by
  cases signed with
  | none => exact nofun
  | plus | minus => exact List.forall_mem_singleton.mpr (by decide)

lemma FractionText.isDigit_or_mark {fraction : Option (List Char)} (fractional : FractionText p fraction s) :
    ∀ c ∈ s, p c = true ∨ c ∈ numberMarks := by
  cases fractional with
  | none => exact nofun
  | some all => exact List.forall_mem_cons.mpr ⟨.inr (by decide), fun c mem => .inl (all c mem)⟩

lemma ExponentText.isDigit_or_mark {exponent : Option (Bool × List Char)} (exponential : ExponentText p exponent s) :
    ∀ c ∈ s, p c = true ∨ c ∈ numberMarks := by
  cases exponential with
  | none => exact nofun
  | some either signed _ all =>
    refine List.forall_mem_cons.mpr ⟨.inr ?_, List.forall_mem_append.mpr ⟨?_, ?_⟩⟩
    · obtain rfl | rfl := either <;> decide
    · exact fun c mem => .inr (signed.mem_numberMarks c mem)
    · exact fun c mem => .inl (all c mem)

/-- A literal has digits of its class, and the characters for signs, point and exponent. -/
lemma LiteralText.isDigit_or_mark (written : LiteralText p literal s) :
    ∀ c ∈ s, p c = true ∨ c ∈ numberMarks := by
  obtain ⟨signed, all, fractional, -, exponential⟩ := written
  refine List.forall_mem_append.mpr ⟨fun c mem => .inr (signed.mem_numberMarks c mem), ?_⟩
  refine List.forall_mem_append.mpr ⟨fun c mem => .inl (all c mem), ?_⟩
  exact List.forall_mem_append.mpr ⟨fractional.isDigit_or_mark, exponential.isDigit_or_mark⟩

lemma FractionText.of_digits {fraction : Option (List Char)} (fractional : FractionText p fraction s)
    (within : ∀ c ∈ s, p c = true → q c = true) : FractionText q fraction s := by
  cases fractional with
  | none => exact .none
  | some all => exact .some fun c mem => within c (List.mem_cons_of_mem _ mem) (all c mem)

lemma ExponentText.of_digits {exponent : Option (Bool × List Char)} (exponential : ExponentText p exponent s)
    (within : ∀ c ∈ s, p c = true → q c = true) : ExponentText q exponent s := by
  cases exponential with
  | none => exact .none
  | some either signed some_digit all =>
    exact .some either signed some_digit fun c mem =>
      within c (List.mem_cons_of_mem _ (List.mem_append_right _ mem)) (all c mem)

/-- A literal whose digits are in another class. -/
lemma LiteralText.of_digits (written : LiteralText p literal s) (within : ∀ c ∈ s, p c = true → q c = true) :
    LiteralText q literal s := by
  obtain ⟨signed, all, fractional, some_digit, exponential⟩ := written
  have behind := (List.forall_mem_append.mp within).2
  obtain ⟨front, behind⟩ := List.forall_mem_append.mp behind
  obtain ⟨middle, back⟩ := List.forall_mem_append.mp behind
  exact .mk signed (.mk (fun c mem => front c mem (all c mem)) (fractional.of_digits middle) some_digit
    (exponential.of_digits back))

/-! ### Reading -/

namespace Shape

variable {whole point power rest : List Char} {fraction : Option (List Char)} {exponent : Option (Bool × List Char)}

/-- The digits and the fraction are taken off what cannot continue them. -/
lemma takeMantissa_append (all : ∀ c ∈ whole, Text.isDecimalDigit c = true)
    (fractional : FractionText Text.isDecimalDigit fraction point) (some_digit : whole ++ fraction.getD [] ≠ [])
    (stops : Text.StartsOutside Text.isDecimalDigit rest) (no_point : rest.head? ≠ some '.') :
    takeMantissa (whole ++ (point ++ rest)) = some (whole, fraction, rest) := by
  have outside : Text.StartsOutside Text.isDecimalDigit (point ++ rest) := by
    cases fractional with
    | none => exact stops
    | some =>
      rintro c ⟨⟩
      exact isDecimalDigit_of_mem_numberMarks (by decide)
  rw [takeMantissa, outside.takeWhile_append all, outside.dropWhile_append all]
  cases fractional with
  | none =>
    rw [Option.getD_none, List.append_nil] at some_digit
    split
    · next behind dot => exact absurd (congrArg List.head? dot) no_point
    · next => rw [if_neg some_digit, List.nil_append]
  | some all_behind =>
    rw [Option.getD_some, Ne, List.append_eq_nil_iff] at some_digit
    split
    · next behind dot =>
      rw [List.cons_append, List.cons.injEq] at dot
      rw [← dot.2, stops.takeWhile_append all_behind, stops.dropWhile_append all_behind, if_neg some_digit]
    · next no_dot => exact absurd rfl (no_dot _)

/-- What is taken off a text is digits and a fraction. -/
lemma exists_of_takeMantissa (taken : takeMantissa s = some (whole, fraction, rest)) :
    ∃ point, (∀ c ∈ whole, Text.isDecimalDigit c = true) ∧ FractionText Text.isDecimalDigit fraction point ∧
      whole ++ fraction.getD [] ≠ [] ∧ s = whole ++ (point ++ rest) := by
  have parts := List.takeWhile_append_dropWhile (p := Text.isDecimalDigit) (l := s)
  rw [takeMantissa] at taken
  split at taken
  · next behind dot =>
    rw [Option.ite_none_left_eq_some] at taken
    obtain ⟨some_digit, same⟩ := taken
    cases same
    refine ⟨'.' :: behind.takeWhile Text.isDecimalDigit, fun _ => List.mem_takeWhile_imp,
      .some fun _ => List.mem_takeWhile_imp, ?_, ?_⟩
    · rwa [Option.getD_some, Ne, List.append_eq_nil_iff]
    · rw [List.cons_append, List.takeWhile_append_dropWhile, ← dot, parts]
  · rw [Option.ite_none_left_eq_some] at taken
    obtain ⟨some_digit, same⟩ := taken
    cases same
    refine ⟨[], fun _ => List.mem_takeWhile_imp, .none, ?_, parts.symm⟩
    rwa [Option.getD_none, List.append_nil]

/-- An exponent is read iff the text is one. -/
lemma takeExponent_eq_some_iff : takeExponent s = some exponent ↔ ExponentText Text.isDecimalDigit exponent s := by
  constructor
  · intro taken
    cases s with
    | nil =>
      cases taken
      exact .none
    | cons letter rest =>
      rw [takeExponent, Option.ite_none_right_eq_some] at taken
      obtain ⟨⟨either, some_digit, all⟩, same⟩ := taken
      -- the sign that was taken off goes back in front of the digits
      obtain ⟨sign, signed, parts⟩ := exists_signText rest
      rw [← Option.some.inj same]
      generalize takeSign rest = taken at signed parts some_digit all
      rw [← parts]
      exact .some either signed some_digit (List.all_eq_true.mp all)
  · rintro (_ | ⟨either, signed, some_digit, all⟩)
    · rfl
    · rw [takeExponent, takeSign_append signed (head?_ne_sign all)]
      exact if_pos ⟨either, some_digit, List.all_eq_true.mpr all⟩

/-- What stands behind the digits of a literal does not continue them. -/
lemma head?_of_exponentText (exponential : ExponentText Text.isDecimalDigit exponent power) :
    Text.StartsOutside Text.isDecimalDigit power ∧ power.head? ≠ some '.' := by
  cases exponential with
  | none => exact ⟨nofun, nofun⟩
  | some either =>
    obtain rfl | rfl := either
    all_goals
      constructor
      · rintro c ⟨⟩
        exact isDecimalDigit_of_mem_numberMarks (by decide)
      · simp

/-- A literal without a sign begins with none. -/
lemma head?_of_magnitudeText (magnitude : MagnitudeText Text.isDecimalDigit whole fraction exponent s) :
    ∀ c ∈ s.head?, c ≠ '+' ∧ c ≠ '-' := by
  obtain ⟨all, fractional, some_digit, exponential⟩ := magnitude
  cases whole with
  | cons =>
    have bare := head?_ne_sign all
    exact bare
  | nil =>
    cases fractional with
    | none => exact absurd rfl some_digit
    | some => simp

/-- The parts of the literal that is read. -/
lemma numericLiteral?_eq_some : numericLiteral? s = some literal ↔
    ∃ rest, takeMantissa (takeSign (Text.trim s)).2 = some (literal.whole, literal.fraction, rest) ∧
      takeExponent rest = some literal.exponent ∧ (takeSign (Text.trim s)).1 = literal.negative := by
  obtain ⟨negative, whole, fraction, exponent⟩ := literal
  simp only [numericLiteral?, Option.bind_eq_bind, Option.bind_eq_some_iff, Prod.exists, Option.some.injEq,
    Literal.mk.injEq]
  constructor
  · rintro ⟨_, _, rest, taken, _, power, rfl, rfl, rfl, rfl⟩
    exact ⟨rest, taken, power, rfl⟩
  · rintro ⟨rest, taken, power, rfl⟩
    exact ⟨_, _, rest, taken, _, power, rfl, rfl, rfl, rfl⟩

/-- A text is read as a literal iff it is one when it is trimmed. -/
theorem numericLiteral?_eq_some_iff :
    numericLiteral? s = some literal ↔ LiteralText Text.isDecimalDigit literal (Text.trim s) := by
  rw [numericLiteral?_eq_some]
  generalize Text.trim s = t
  constructor
  · rintro ⟨rest, taken, power, sign_read⟩
    obtain ⟨sign, signed, parts⟩ := exists_signText t
    obtain ⟨point, all, fractional, some_digit, body⟩ := exists_of_takeMantissa taken
    rw [sign_read] at signed
    rw [body] at parts
    rw [← parts]
    exact .mk signed (.mk all fractional some_digit (takeExponent_eq_some_iff.mp power))
  · rintro ⟨signed, magnitude⟩
    rw [takeSign_append signed (head?_of_magnitudeText magnitude)]
    obtain ⟨all, fractional, some_digit, exponential⟩ := magnitude
    obtain ⟨stops, no_point⟩ := head?_of_exponentText exponential
    have mantissa := takeMantissa_append all fractional some_digit stops no_point
    exact ⟨_, mantissa, takeExponent_eq_some_iff.mpr exponential, rfl⟩

lemma hasAsciiDigits_of_literalText (written : LiteralText Char.isDigit literal s) :
    hasAsciiDigits literal = true := by
  obtain ⟨signed, all, fractional, -, exponential⟩ := written
  simp only [hasAsciiDigits, Bool.and_eq_true, List.all_eq_true]
  refine ⟨⟨all, ?_⟩, ?_⟩
  · cases fractional with
    | none => exact nofun
    | some all_behind => exact all_behind
  · cases exponential with
    | none => rfl
    | some _ _ _ digits => exact List.all_eq_true.mpr digits

/-- A literal whose digits are ASCII digits is written in them. -/
lemma literalText_of_hasAsciiDigits (written : LiteralText p literal s) (ascii : hasAsciiDigits literal = true) :
    LiteralText Char.isDigit literal s := by
  obtain ⟨signed, -, fractional, some_digit, exponential⟩ := written
  simp only [hasAsciiDigits, Bool.and_eq_true, List.all_eq_true] at ascii
  obtain ⟨⟨whole_ascii, fraction_ascii⟩, exponent_ascii⟩ := ascii
  refine .mk signed (.mk whole_ascii ?_ some_digit ?_)
  · cases fractional with
    | none => exact .none
    | some => exact .some fraction_ascii
  · cases exponential with
    | none => exact .none
    | some either signed some_digit => exact .some either signed some_digit (List.all_eq_true.mp exponent_ascii)

/-- A text has a value iff it is a literal in ASCII digits when it is trimmed. -/
theorem number?_eq_some_iff {x : Extended} :
    number? s = some x ↔ ∃ literal, LiteralText Char.isDigit literal (Text.trim s) ∧ literal.nearest = x := by
  have widen : ∀ literal, LiteralText Char.isDigit literal (Text.trim s) → numericLiteral? s = some literal :=
    fun literal written =>
      numericLiteral?_eq_some_iff.mpr (written.of_digits fun c _ digit => isDecimalDigit_of_isDigit digit)
  constructor
  · intro read
    rw [number?] at read
    split at read
    · next literal found =>
      rw [Option.ite_none_right_eq_some, Option.some.injEq] at read
      exact ⟨literal, literalText_of_hasAsciiDigits (numericLiteral?_eq_some_iff.mp found) read.1, read.2⟩
    · cases read
  · rintro ⟨literal, written, rfl⟩
    rw [number?, widen literal written]
    exact if_pos (hasAsciiDigits_of_literalText written)

end Shape

end RecordRules
