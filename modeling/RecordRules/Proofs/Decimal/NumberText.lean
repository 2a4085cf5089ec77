/-
How JSON texts write numbers.

* `NumberText`: the grammar of numbers;
* `Literal.magnitude`, `Literal.nearest_eq`: the number that a literal writes, and the
  double that it is read as;
* `JsonNumber.WritesMoved`: a text writes digits with a point or an exponent, one lemma for
  each layout;
* `JsonNumber.Spells`: a text writes a number;
* `JsonNumber.spells_text`: the text of a number does so;
* `JsonNumber.exists_literalText`: it is a literal in ASCII digits.
-/
import RecordRules.Json.Writer
import RecordRules.Proofs.Decimal.LiteralText
import RecordRules.Proofs.Decimal.Shortest

namespace RecordRules

/-! ### The grammar -/

/-- A number of a JSON text: a minus sign or none, digits without leading zeros, and
then a fraction, which has a digit, and an exponent, or none of them. -/
inductive NumberText : Literal → List Char → Prop where
  | mk {literal : Literal} {point power : List Char} (all : ∀ c ∈ literal.whole, c.isDigit = true)
      (leading : literal.whole = ['0'] ∨ literal.whole ≠ [] ∧ literal.whole.head? ≠ some '0')
      (fractional : FractionText Char.isDigit literal.fraction point) (some_digit : literal.fraction ≠ some [])
      (exponential : ExponentText Char.isDigit literal.exponent power) :
      NumberText literal ((if literal.negative then ['-'] else []) ++ (literal.whole ++ (point ++ power)))

lemma ne_nil_of_leading {whole : List Char} (leading : whole = ['0'] ∨ whole ≠ [] ∧ whole.head? ≠ some '0') :
    whole ≠ [] := by
  rcases leading with rfl | ⟨nonempty, -⟩
  · exact List.cons_ne_nil _ _
  · exact nonempty

/-- A number of a JSON text is a literal. -/
lemma NumberText.literalText {literal : Literal} {s : List Char} (written : NumberText literal s) :
    LiteralText Char.isDigit literal s := by
  obtain ⟨all, leading, fractional, -, exponential⟩ := written
  obtain ⟨negative, whole, fraction, exponent⟩ := literal
  have some_digit : whole ++ fraction.getD [] ≠ [] :=
    List.append_ne_nil_of_left_ne_nil (ne_nil_of_leading leading) _
  cases negative with
  | true => exact .mk .minus (.mk all fractional some_digit exponential)
  | false => exact .mk .none (.mk all fractional some_digit exponential)

namespace Literal

/-- The number that a literal writes, without its sign. -/
def magnitude (literal : Literal) : ℚ :=
  numberOf (literal.whole ++ literal.fraction.getD []) *
    10 ^ (literal.exponentValue - (literal.fraction.getD []).length)

/-- A literal that writes a number which rounds to a double is read as the double. -/
lemma nearest_eq {literal : Literal} {x : Binary64} (sign : literal.negative = x.negative)
    (nonzero : x.mantissa ≠ 0) (rounds : x.RoundsTo literal.magnitude) : literal.nearest = .finite x := by
  have read := Binary64.ofDecimal?_eq nonzero rounds
  rw [← sign] at read
  rw [nearest, read]
  rfl

end Literal

/-! ### Layout -/

lemma numberOf_append (a b : List Char) : numberOf (a ++ b) = numberOf a * 10 ^ b.length + numberOf b := by
  rw [numberOf, numberFrom_append, numberFrom_eq, numberOf, numberOf]

lemma numberOf_replicate (k : ℕ) : numberOf (List.replicate k '0') = 0 := by
  induction k with
  | zero => rfl
  | succ k ih =>
    rw [List.replicate_succ', numberOf_append, ih]
    rfl

/-- Digits of a number that is not zero do not begin with a zero. -/
lemma head?_digitsOf {n : ℕ} (nonzero : n ≠ 0) : (digitsOf n).head? ≠ some '0' := by
  induction n using Nat.strongRecOn with
  | _ n ih =>
    rw [digitsOf]
    split
    · next small =>
      intro zero
      have value := congrArg digitValue (Option.some.inj zero)
      rw [digitValue_digitChar small] at value
      exact nonzero value
    · next large =>
      rw [List.head?_append_of_ne_nil _ (digitsOf_ne_nil _)]
      exact ih (n / 10) (by omega) (by omega)

namespace JsonNumber

lemma exponentText_exponentText (e : ℤ) :
    ExponentText Char.isDigit (some (decide (e < 0), digitsOf e.natAbs)) ('e' :: exponentText e) := by
  have some_digit := digitsOf_ne_nil e.natAbs
  have all : ∀ c ∈ digitsOf e.natAbs, c.isDigit = true := isDigit_of_mem_digitsOf
  rw [exponentText]
  by_cases negative : e < 0
  · rw [if_pos negative, decide_eq_true negative]
    exact .some (.inl rfl) .minus some_digit all
  · rw [if_neg negative, decide_eq_false negative]
    exact .some (.inl rfl) .plus some_digit all

lemma exponentValue_exponentText (negative : Bool) (whole : List Char) (fraction : Option (List Char)) (e : ℤ) :
    Literal.exponentValue ⟨negative, whole, fraction, some (decide (e < 0), digitsOf e.natAbs)⟩ = e := by
  have value := numberOf_digitsOf e.natAbs
  by_cases below : e < 0
  · rw [decide_eq_true below, Literal.exponentValue]
    dsimp only
    omega
  · rw [decide_eq_false below, Literal.exponentValue]
    dsimp only
    omega

/-- A text writes digits that are moved by some places, with a fraction or an exponent. -/
def WritesMoved (negative : Bool) (ds : List Char) (e : ℤ) (s : List Char) : Prop :=
  ∃ literal : Literal, literal.negative = negative ∧
    NumberText literal ((if negative then ['-'] else []) ++ s) ∧
    (literal.fraction ≠ none ∨ literal.exponent ≠ none) ∧ literal.magnitude = numberOf ds * 10 ^ e

/-- Digits, a point and digits. -/
lemma numberText_of_fraction (negative : Bool) {whole fraction : List Char} (all : ∀ c ∈ whole, c.isDigit = true)
    (leading : whole = ['0'] ∨ whole ≠ [] ∧ whole.head? ≠ some '0') (behind : ∀ c ∈ fraction, c.isDigit = true)
    (some_digit : fraction ≠ []) :
    NumberText ⟨negative, whole, some fraction, none⟩
      ((if negative then ['-'] else []) ++ (whole ++ '.' :: fraction)) := by
  have written : NumberText ⟨negative, whole, some fraction, none⟩
      ((if negative then ['-'] else []) ++ (whole ++ ('.' :: fraction ++ []))) :=
    .mk all leading (.some behind) (fun empty => some_digit (Option.some.inj empty)) .none
  rwa [List.append_nil] at written

/-- A point divides digits: it stands as many places from their end as they are moved. -/
lemma writesMoved_of_fraction {negative : Bool} {ds whole fraction : List Char} {e : ℤ}
    (all : ∀ c ∈ whole, c.isDigit = true) (leading : whole = ['0'] ∨ whole ≠ [] ∧ whole.head? ≠ some '0')
    (behind : ∀ c ∈ fraction, c.isDigit = true) (some_digit : fraction ≠ [])
    (value : (numberOf (whole ++ fraction) * 10 ^ (-fraction.length : ℤ) : ℚ) = numberOf ds * 10 ^ e) :
    WritesMoved negative ds e (whole ++ '.' :: fraction) := by
  refine ⟨_, rfl, numberText_of_fraction negative all leading behind some_digit, .inl (Option.some_ne_none _), ?_⟩
  rw [Literal.magnitude, Literal.exponentValue, zero_sub]
  exact value

section Layouts

variable {ds : List Char}

lemma isDigit_of_mem_replicate {k : ℕ} : ∀ c ∈ List.replicate k '0', c.isDigit = true := by
  intro c mem
  rw [List.eq_of_mem_replicate mem]
  rfl

/-- Zeros behind the digits. -/
lemma writesMoved_whole (digits : ∀ c ∈ ds, c.isDigit = true) (some_digit : ds ≠ []) (leading : ds.head? ≠ some '0')
    (negative : Bool) (k : ℕ) : WritesMoved negative ds k (ds ++ List.replicate k '0' ++ ['.', '0']) := by
  have nonempty := List.append_ne_nil_of_left_ne_nil some_digit (List.replicate k '0')
  have first : (ds ++ List.replicate k '0').head? ≠ some '0' := by
    rwa [List.head?_append_of_ne_nil _ some_digit]
  have last : numberOf ['0'] = 0 := numberOf_replicate 1
  refine writesMoved_of_fraction (List.forall_mem_append.mpr ⟨digits, isDigit_of_mem_replicate⟩)
    (.inr ⟨nonempty, first⟩) (isDigit_of_mem_replicate (k := 1)) (List.cons_ne_nil _ _) ?_
  rw [numberOf_append, numberOf_append, numberOf_replicate, last, List.length_replicate, List.length_singleton,
    zpow_natCast]
  push_cast
  ring

/-- The point among the digits. -/
lemma writesMoved_inside (digits : ∀ c ∈ ds, c.isDigit = true) (some_digit : ds ≠ []) (leading : ds.head? ≠ some '0')
    (negative : Bool) {point : ℕ} (positive : 0 < point) (inside : point < ds.length) :
    WritesMoved negative ds (point - ds.length) (ds.take point ++ '.' :: ds.drop point) := by
  have nonempty : ds.take point ≠ [] := by
    rw [Ne, List.take_eq_nil_iff, not_or]
    exact ⟨positive.ne', some_digit⟩
  have first : (ds.take point).head? ≠ some '0' := by
    rwa [List.head?_take, if_neg positive.ne']
  have behind : ds.drop point ≠ [] := by
    rw [Ne, List.drop_eq_nil_iff]
    exact not_le.mpr inside
  refine writesMoved_of_fraction (fun c mem => digits c (List.mem_of_mem_take mem)) (.inr ⟨nonempty, first⟩)
    (fun c mem => digits c (List.mem_of_mem_drop mem)) behind ?_
  rw [List.take_append_drop, List.length_drop]
  congr 2
  omega

/-- Zeros before the digits. -/
lemma writesMoved_fraction (digits : ∀ c ∈ ds, c.isDigit = true) (some_digit : ds ≠ []) (negative : Bool) (k : ℕ) :
    WritesMoved negative ds (-(ds.length + k)) ('0' :: '.' :: (List.replicate k '0' ++ ds)) := by
  refine writesMoved_of_fraction (isDigit_of_mem_replicate (k := 1)) (.inl rfl)
    (List.forall_mem_append.mpr ⟨isDigit_of_mem_replicate, digits⟩)
    (List.append_ne_nil_of_right_ne_nil _ some_digit) ?_
  rw [← List.append_assoc, numberOf_append, ← List.replicate_add, numberOf_replicate, List.length_append,
    List.length_replicate, Nat.zero_mul, Nat.zero_add]
  congr 2
  omega

end Layouts

/-- One digit before the point, and an exponent. -/
lemma writesMoved_exponent (negative : Bool) {first : Char} {rest : List Char}
    (digits : ∀ c ∈ first :: rest, c.isDigit = true) (leading : first ≠ '0') (e : ℤ) :
    WritesMoved negative (first :: rest) (e - rest.length)
      (first :: ((if rest = [] then [] else '.' :: rest) ++ 'e' :: exponentText e)) := by
  obtain ⟨first_digit, rest_digits⟩ := List.forall_mem_cons.mp digits
  have others : FractionText Char.isDigit (if rest = [] then none else some rest)
      (if rest = [] then [] else '.' :: rest) ∧ (if rest = [] then none else some rest) ≠ some [] ∧
      (if rest = [] then none else some rest).getD [] = rest := by
    split
    · next empty => exact ⟨.none, (Option.some_ne_none _).symm, empty.symm⟩
    · next nonempty => exact ⟨.some rest_digits, fun empty => nonempty (Option.some.inj empty), rfl⟩
  obtain ⟨fractional, some_digit, behind⟩ := others
  have leading' : [first].head? ≠ some '0' := fun zero => leading (Option.some.inj zero)
  refine ⟨⟨negative, [first], if rest = [] then none else some rest, _⟩, rfl,
    .mk (List.forall_mem_singleton.mpr first_digit) (.inr ⟨List.cons_ne_nil _ _, leading'⟩) fractional some_digit
      (exponentText_exponentText e), .inr (Option.some_ne_none _), ?_⟩
  rw [Literal.magnitude, exponentValue_exponentText, behind]
  rfl

/-- A decimal number is written with a fraction or an exponent, by digits of its value. -/
lemma writesMoved_decimalText (format : DoubleFormat) (negative : Bool) {d : DecimalNumber}
    (nonzero : d.coefficient ≠ 0) : WritesMoved negative (digitsOf d.coefficient) d.exponent (decimalText format d) := by
  have digits : ∀ c ∈ digitsOf d.coefficient, c.isDigit = true := isDigit_of_mem_digitsOf
  have some_digit := digitsOf_ne_nil d.coefficient
  have leading := head?_digitsOf nonzero
  rw [decimalText]
  generalize digitsOf d.coefficient = ds at digits some_digit leading
  generalize d.exponent = e
  by_cases plain : format.leastPoint ≤ ds.length + e ∧ ds.length + e ≤ format.greatestPoint
  · rw [if_pos plain]
    by_cases whole : 0 ≤ e
    · obtain ⟨k, rfl⟩ := Int.eq_ofNat_of_zero_le whole
      rw [if_pos whole]
      exact writesMoved_whole digits some_digit leading negative k
    rw [if_neg whole]
    by_cases inside : 0 < ds.length + e
    · rw [if_pos inside]
      obtain ⟨point, same⟩ := Int.eq_ofNat_of_zero_le inside.le
      have moved : e = point - ds.length := by omega
      rw [same, moved]
      exact writesMoved_inside digits some_digit leading negative (by omega) (by omega)
    · rw [if_neg inside]
      obtain ⟨k, same⟩ := Int.eq_ofNat_of_zero_le (Int.neg_nonneg_of_nonpos (not_lt.mp inside))
      have moved : e = -(ds.length + k) := by omega
      rw [same, moved]
      exact writesMoved_fraction digits some_digit negative k
  · rw [if_neg plain]
    cases ds with
    | nil => exact absurd rfl some_digit
    | cons first rest =>
      have moved : e = ((first :: rest).length + e - 1) - rest.length := by
        rw [List.length_cons]
        omega
      have written := writesMoved_exponent negative digits (fun zero => leading (congrArg some zero))
        ((first :: rest).length + e - 1)
      rwa [← moved] at written

/-! ### Numbers -/

/-- A text writes a number. An integer is written by its digits; a double is written with a
fraction or an exponent, and it is nearest to the number that is written. -/
inductive Spells : JsonNumber → List Char → Prop where
  | integer {n : ℤ} {digits s : List Char} (written : NumberText ⟨decide (n < 0), digits, none, none⟩ s)
      (value : numberOf digits = n.natAbs) : Spells (.integer n) s
  | double {x : Binary64} {literal : Literal} {s : List Char} (written : NumberText literal s)
      (broken : literal.fraction ≠ none ∨ literal.exponent ≠ none) (value : literal.nearest = .finite x) :
      Spells (.double x) s

lemma spells_integer (n : ℤ) : Spells (.integer n) (integerText n) := by
  have leading : digitsOf n.natAbs = ['0'] ∨ digitsOf n.natAbs ≠ [] ∧ (digitsOf n.natAbs).head? ≠ some '0' := by
    by_cases zero : n.natAbs = 0
    · rw [zero]
      exact .inl (by rw [digitsOf]; rfl)
    · exact .inr ⟨digitsOf_ne_nil _, head?_digitsOf zero⟩
  have written : NumberText ⟨decide (n < 0), digitsOf n.natAbs, none, none⟩
      ((if decide (n < 0) then ['-'] else []) ++ (digitsOf n.natAbs ++ ([] ++ []))) :=
    .mk isDigit_of_mem_digitsOf leading .none (Option.some_ne_none _).symm .none
  have same : (if decide (n < 0) then ['-'] else []) ++ (digitsOf n.natAbs ++ ([] ++ [])) = integerText n := by
    rw [integerText, List.append_nil, List.append_nil]
    by_cases below : n < 0
    · rw [if_pos below, if_pos (decide_eq_true below)]
      rfl
    · rw [if_neg below, decide_eq_false below]
      rfl
  exact .integer (same ▸ written) (numberOf_digitsOf _)

/-- A double without a mantissa is zero. -/
lemma eq_zero_of_mantissa {x : Binary64} (zero : x.mantissa = 0) : x = .zero x.negative := by
  have least : x.exponent = -1074 := by
    refine x.canonical.2.2.2.resolve_left fun some_digits => ?_
    rw [zero] at some_digits
    exact absurd some_digits (by decide)
  cases x with
  | mk negative mantissa exponent canonical =>
    cases zero
    cases least
    rfl

lemma spells_double (x : Binary64) : Spells (.double x) (doubleText x) := by
  rw [doubleText]
  by_cases zero : x.mantissa = 0
  · rw [if_pos zero]
    have digit : ∀ c ∈ ['0'], c.isDigit = true := List.forall_mem_singleton.mpr rfl
    refine .double (numberText_of_fraction x.negative digit (.inl rfl) digit (List.cons_ne_nil _ _)) (.inl (by simp)) ?_
    rw [eq_zero_of_mantissa zero]
    rfl
  · rw [if_neg zero]
    have rounds := Binary64.roundsTo_shortest zero
    have some_digit : x.shortest.coefficient ≠ 0 := by
      intro none
      have positive := rounds.pos zero
      rw [DecimalNumber.value, none, Nat.cast_zero, zero_mul] at positive
      exact positive.false
    obtain ⟨literal, sign, written, broken, magnitude⟩ := writesMoved_decimalText .json x.negative some_digit
    have value : literal.magnitude = x.shortest.value := by
      rw [magnitude, numberOf_digitsOf, DecimalNumber.value]
    exact .double written broken (literal.nearest_eq sign zero (value ▸ rounds))

/-- **The text of a number writes the number.** -/
theorem spells_text : ∀ n : JsonNumber, Spells n n.text
  | .integer n => spells_integer n
  | .double x => spells_double x

/-- Numbers are written as literals in ASCII digits. -/
theorem exists_literalText (n : JsonNumber) : ∃ literal, LiteralText Char.isDigit literal n.text := by
  cases n.spells_text with
  | integer written => exact ⟨_, written.literalText⟩
  | double written => exact ⟨_, written.literalText⟩

end JsonNumber

end RecordRules
