/-
Rounding quotients to doubles.

* `scaled_div`: a quotient over a power of two, as a quotient of natural numbers;
* `IsNearest`, `roundHalfEven_eq_iff`: rounding to a natural number;
* `exists_exponentFor`: the binade of a quotient;
* `RoundsTo`: the rationals that round to a double;
* `RoundsTo.round?_eq`: a quotient in that interval is rounded to the double.
-/
import RecordRules.Decimal.Shortest
import Mathlib.Algebra.Order.Field.Basic
import Mathlib.Algebra.Order.Field.Power
import Mathlib.Data.Rat.Cast.Order
import Mathlib.Tactic.FieldSimp
import Mathlib.Tactic.Linarith
import Mathlib.Tactic.Positivity
import Mathlib.Tactic.Ring

namespace RecordRules.Binary64

variable {num den m : ℕ} {e : ℤ}

/-! ### Powers of integers -/

/-- A power with an integer exponent, as a quotient of powers with natural ones. -/
lemma zpow_eq_toNat {b : ℚ} (nonzero : b ≠ 0) (e : ℤ) : b ^ e = b ^ e.toNat / b ^ (-e).toNat := by
  rw [← zpow_natCast, ← zpow_natCast, ← zpow_sub₀ nonzero]
  congr 1
  omega

lemma scaled_div (num den : ℕ) (e : ℤ) :
    ((num * Nat.pow 2 (-e).toNat : ℕ) : ℚ) / (den * Nat.pow 2 e.toNat : ℕ) = (num : ℚ) / den / 2 ^ e := by
  simp only [Nat.pow_eq, Nat.cast_mul, Nat.cast_pow, Nat.cast_ofNat]
  rw [zpow_eq_toNat two_ne_zero, div_div_div_eq]

/-! ### Rounding to natural numbers -/

/-- A natural number that is at most a half away from a rational, and an even one if it is a
half away. -/
def IsNearest (m : ℕ) (v : ℚ) : Prop := |(m : ℚ) - v| ≤ 1 / 2 ∧ (|(m : ℚ) - v| = 1 / 2 → m % 2 = 0)

lemma isNearest_roundHalfEven (positive : 0 < den) : IsNearest (roundHalfEven num den) ((num : ℚ) / den) := by
  have positive' : (0 : ℚ) < den := Nat.cast_pos.mpr positive
  have quotient : (num : ℚ) / den = (num / den : ℕ) + (num % den : ℕ) / den := by
    have parts : (den : ℚ) * (num / den : ℕ) + (num % den : ℕ) = num := by exact_mod_cast Nat.div_add_mod num den
    rw [← parts, add_div, mul_div_cancel_left₀ _ positive'.ne']
  have below : ((num % den : ℕ) : ℚ) / den < 1 :=
    (div_lt_one positive').mpr (Nat.cast_lt.mpr (Nat.mod_lt num positive))
  have above : 0 ≤ ((num % den : ℕ) : ℚ) / den := by positivity
  have doubled : ((2 * (num % den) : ℕ) : ℚ) / den = 2 * (((num % den : ℕ) : ℚ) / den) := by
    push_cast
    ring
  rw [roundHalfEven, quotient]
  rcases Nat.lt_trichotomy (2 * (num % den)) den with less | half | more
  · have less' := (div_lt_one positive').mpr (Nat.cast_lt.mpr less)
    rw [doubled] at less'
    rw [if_pos less, IsNearest, sub_add_cancel_left, abs_neg, abs_of_nonneg above]
    exact ⟨by linarith, fun tie => by linarith⟩
  · have half' : 2 * (((num % den : ℕ) : ℚ) / den) = 1 := by
      rw [← doubled, half, div_self positive'.ne']
    rw [if_neg half.not_lt, if_neg half.not_gt]
    split
    · next even =>
      rw [IsNearest, sub_add_cancel_left, abs_neg, abs_of_nonneg above]
      exact ⟨by linarith, fun _ => even⟩
    · next odd =>
      rw [IsNearest, Nat.cast_succ, add_sub_add_left_eq_sub, abs_of_nonneg (by linarith)]
      exact ⟨by linarith, fun _ => by omega⟩
  · have more' := (one_lt_div positive').mpr (Nat.cast_lt.mpr more)
    rw [doubled] at more'
    rw [if_neg more.asymm, if_pos more, IsNearest, Nat.cast_succ, add_sub_add_left_eq_sub,
      abs_of_nonneg (by linarith)]
    exact ⟨by linarith, fun tie => by linarith⟩

/-- There is one nearest number. -/
lemma IsNearest.unique {n : ℕ} {v : ℚ} (h : IsNearest m v) (h' : IsNearest n v) : m = n := by
  by_contra different
  -- two numbers are one apart at most, and then both are a half away and even
  have apart : (1 : ℚ) ≤ |(m : ℚ) - n| := by
    rw [← Int.cast_natCast, ← Int.cast_natCast (n := n), ← Int.cast_sub, ← Int.cast_abs]
    have := Int.one_le_abs (sub_ne_zero.mpr (Nat.cast_injective.ne different : (m : ℤ) ≠ n))
    exact_mod_cast this
  have close := abs_sub_le (m : ℚ) v n
  rw [abs_sub_comm v] at close
  have even := h.2 (by linarith [h.1, h'.1])
  have even' := h'.2 (by linarith [h.1, h'.1])
  have at_most : |(m : ℚ) - n| ≤ 1 := by linarith [h.1, h'.1]
  rw [abs_le] at at_most
  have upper : (m : ℚ) ≤ (n + 1 : ℕ) := by
    push_cast
    linarith
  have lower : (n : ℚ) ≤ (m + 1 : ℕ) := by
    push_cast
    linarith
  have := Nat.cast_le.mp upper
  have := Nat.cast_le.mp lower
  omega

/-- A quotient is rounded to the nearest number. -/
lemma roundHalfEven_eq_iff (positive : 0 < den) : roundHalfEven num den = m ↔ IsNearest m ((num : ℚ) / den) := by
  constructor
  · rintro rfl
    exact isNearest_roundHalfEven positive
  · exact (isNearest_roundHalfEven positive).unique

/-- A quotient over a power of two is rounded to the nearest number. -/
lemma scaledMantissa_eq_iff (positive : 0 < den) :
    scaledMantissa num den e = m ↔ IsNearest m ((num : ℚ) / den / 2 ^ e) := by
  have scale : 0 < den * Nat.pow 2 e.toNat := Nat.mul_pos positive (Nat.pow_pos (by decide))
  rw [scaledMantissa, roundHalfEven_eq_iff scale, scaled_div]

/-! ### Binades -/

lemma lt_zpow_iff {a b : ℤ} : (2 : ℚ) ^ a < 2 ^ b ↔ a < b := zpow_lt_zpow_iff_right₀ one_lt_two

/-- The logarithms of two numbers leave two binades open for their quotient. -/
lemma log2_div_bounds (positive : 0 < num) (positive' : 0 < den) :
    (2 : ℚ) ^ ((Nat.log2 num : ℤ) - Nat.log2 den - 1) < (num : ℚ) / den ∧
      (num : ℚ) / den < 2 ^ ((Nat.log2 num : ℤ) - Nat.log2 den + 1) := by
  have den_pos : (0 : ℚ) < den := Nat.cast_pos.mpr positive'
  have logs : ∀ {n : ℕ}, 0 < n → (2 : ℚ) ^ (Nat.log2 n : ℤ) ≤ n ∧ (n : ℚ) < 2 ^ ((Nat.log2 n : ℤ) + 1) := by
    intro n some
    rw [zpow_natCast, ← Nat.cast_succ, zpow_natCast]
    exact ⟨by exact_mod_cast Nat.log2_self_le some.ne', by exact_mod_cast Nat.lt_log2_self⟩
  obtain ⟨num_lower, num_upper⟩ := logs positive
  obtain ⟨den_lower, den_upper⟩ := logs positive'
  constructor
  · rw [lt_div_iff₀ den_pos]
    calc (2 : ℚ) ^ ((Nat.log2 num : ℤ) - Nat.log2 den - 1) * den
        < 2 ^ ((Nat.log2 num : ℤ) - Nat.log2 den - 1) * 2 ^ ((Nat.log2 den : ℤ) + 1) := by gcongr
      _ = 2 ^ (Nat.log2 num : ℤ) := by
        rw [← zpow_add₀ two_ne_zero]
        congr 1
        ring
      _ ≤ num := num_lower
  · rw [div_lt_iff₀ den_pos]
    calc (num : ℚ) < 2 ^ ((Nat.log2 num : ℤ) + 1) := num_upper
      _ = 2 ^ ((Nat.log2 num : ℤ) - Nat.log2 den + 1) * 2 ^ (Nat.log2 den : ℤ) := by
        rw [← zpow_add₀ two_ne_zero]
        congr 1
        ring
      _ ≤ 2 ^ ((Nat.log2 num : ℤ) - Nat.log2 den + 1) * den := by gcongr

/-- Whether a quotient over a power of two has 54 binary digits. -/
lemma two_pow_le_scaled_iff (positive : 0 < den) (e : ℤ) :
    Nat.pow 2 53 ≤ num * Nat.pow 2 (-e).toNat / (den * Nat.pow 2 e.toNat) ↔
      (2 : ℚ) ^ (e + 53) ≤ (num : ℚ) / den := by
  have scale : 0 < den * Nat.pow 2 e.toNat := Nat.mul_pos positive (Nat.pow_pos (by decide))
  rw [Nat.le_div_iff_mul_le scale, ← Nat.cast_le (α := ℚ), Nat.cast_mul, ← le_div_iff₀ (Nat.cast_pos.mpr scale),
    scaled_div, le_div_iff₀ (by positivity), add_comm e, zpow_add₀ two_ne_zero]
  norm_num

/-- The exponent of a quotient is that of its binade, or the least one. -/
lemma exists_exponentFor (positive : 0 < num) (positive' : 0 < den) :
    ∃ e, exponentFor num den = max (-1074) e ∧ (2 : ℚ) ^ (e + 52) ≤ (num : ℚ) / den ∧
      (num : ℚ) / den < 2 ^ (e + 53) := by
  obtain ⟨lower, upper⟩ := log2_div_bounds positive positive'
  rw [exponentFor]
  split
  · next large =>
    have large := (two_pow_le_scaled_iff positive' _).mp large
    refine ⟨_, rfl, ?_, ?_⟩
    · rwa [show (Nat.log2 num : ℤ) - Nat.log2 den - 53 + 1 + 52 = Nat.log2 num - Nat.log2 den - 53 + 53 by ring]
    · rwa [show (Nat.log2 num : ℤ) - Nat.log2 den - 53 + 1 + 53 = Nat.log2 num - Nat.log2 den + 1 by ring]
  · next small =>
    have small := not_le.mp (mt (two_pow_le_scaled_iff positive' _).mpr small)
    refine ⟨_, rfl, ?_, small⟩
    rw [show (Nat.log2 num : ℤ) - Nat.log2 den - 53 + 52 = Nat.log2 num - Nat.log2 den - 1 by ring]
    exact lower.le

/-! ### Doubles -/

variable {x : Binary64} {v : ℚ}

/-- The rationals that round to a double that is not zero. The bounds round to it iff its
mantissa is even. -/
structure RoundsTo (v : ℚ) (x : Binary64) : Prop where
  lower : x.lowerQuarters * 2 ^ (x.exponent - 2) ≤ v
  upper : v ≤ x.upperQuarters * 2 ^ (x.exponent - 2)
  inside : x.mantissa % 2 = 1 →
    x.lowerQuarters * 2 ^ (x.exponent - 2) < v ∧ v < x.upperQuarters * 2 ^ (x.exponent - 2)

lemma quarter_zpow (e : ℤ) : (2 : ℚ) ^ (e - 2) = 2 ^ e / 4 := by
  rw [zpow_sub₀ two_ne_zero]
  norm_num

lemma one_le_lowerQuarters (nonzero : x.mantissa ≠ 0) : (1 : ℚ) ≤ x.lowerQuarters := by
  have some_quarter : 1 ≤ x.lowerQuarters := by
    rw [lowerQuarters]
    split <;> omega
  exact_mod_cast some_quarter

lemma RoundsTo.pos (nonzero : x.mantissa ≠ 0) (rounds : RoundsTo v x) : 0 < v :=
  lt_of_lt_of_le (mul_pos (one_pos.trans_le (one_le_lowerQuarters nonzero)) (by positivity)) rounds.lower

/-- The lower bound is at most half a place away. -/
lemma lowerQuarters_add_two (x : Binary64) : 4 * x.mantissa ≤ x.lowerQuarters + 2 := by
  rw [lowerQuarters]
  split <;> omega

/-- Over the last place of a double, what rounds to it is nearest to its mantissa. -/
lemma RoundsTo.isNearest (rounds : RoundsTo v x) : IsNearest x.mantissa (v / 2 ^ x.exponent) := by
  have place : (0 : ℚ) < 2 ^ x.exponent := by positivity
  have lowest : (4 * x.mantissa : ℚ) ≤ x.lowerQuarters + 2 := by exact_mod_cast x.lowerQuarters_add_two
  have highest : (x.upperQuarters : ℚ) = 4 * x.mantissa + 2 := by
    rw [upperQuarters]
    push_cast
    ring
  obtain ⟨lower, upper, inside⟩ := rounds
  rw [quarter_zpow, mul_div_assoc', div_le_iff₀ four_pos] at lower
  rw [quarter_zpow, mul_div_assoc', le_div_iff₀ four_pos, highest] at upper
  rw [quarter_zpow, mul_div_assoc', div_lt_iff₀ four_pos, mul_div_assoc', lt_div_iff₀ four_pos, highest] at inside
  obtain ⟨w, rfl⟩ : ∃ w, v = w * 2 ^ x.exponent := ⟨v / 2 ^ x.exponent, (div_mul_cancel₀ v place.ne').symm⟩
  rw [mul_div_cancel_right₀ _ place.ne']
  rw [mul_right_comm, mul_le_mul_iff_left₀ place] at lower
  rw [mul_right_comm, mul_le_mul_iff_left₀ place] at upper
  rw [mul_right_comm, mul_lt_mul_iff_left₀ place, mul_lt_mul_iff_left₀ place] at inside
  refine ⟨abs_le.mpr ⟨by linarith, by linarith⟩, fun tie => ?_⟩
  by_contra odd
  obtain ⟨above, below⟩ := inside (by omega)
  rcases abs_eq (by norm_num) |>.mp tie with tie | tie <;> linarith

/-- At the exponent of a double, what rounds to it is rounded to it. -/
lemma RoundsTo.round?_of_exponentFor (positive : 0 < num) (positive' : 0 < den)
    (rounds : RoundsTo ((num : ℚ) / den) x) (same : exponentFor num den = x.exponent) :
    round? x.negative num den = some x := by
  have mantissa : scaledMantissa num den x.exponent = x.mantissa :=
    (scaledMantissa_eq_iff positive').mpr rounds.isNearest
  rw [round?, if_neg positive.ne', same]
  dsimp only
  rw [mantissa, if_neg x.canonical.1.ne]
  exact dif_pos x.canonical

lemma mantissa_add_one_le (x : Binary64) : (x.mantissa : ℚ) + 1 ≤ 2 ^ (53 : ℤ) := by
  have few : x.mantissa + 1 ≤ 2 ^ 53 := by
    rw [← Nat.pow_eq]
    exact x.canonical.1
  exact_mod_cast few

/-- What rounds to a double is below the next binade. -/
lemma RoundsTo.lt_zpow (rounds : RoundsTo v x) : v < 2 ^ (x.exponent + 53) := by
  have few := x.mantissa_add_one_le
  have near := (abs_le.mp rounds.isNearest.1).1
  rw [add_comm, zpow_add₀ two_ne_zero, ← div_lt_iff₀ (by positivity)]
  linarith

/-- Below its binade, a number rounds to a double only if the double has the least exponent
or is the power of two above the number. -/
lemma RoundsTo.of_lt_zpow (rounds : RoundsTo v x) (below : v < 2 ^ (x.exponent + 52)) :
    x.exponent = -1074 ∨ x.mantissa = Nat.pow 2 52 ∧ (Nat.pow 2 53 : ℕ) - 1 / 2 ≤ v / 2 ^ (x.exponent - 1) := by
  have place : (0 : ℚ) < 2 ^ x.exponent := by positivity
  obtain ⟨-, least, -, some_digits | lowest⟩ := x.canonical
  · by_cases lowest : x.exponent = -1074
    · exact .inl lowest
    have near := (abs_le.mp rounds.isNearest.1).2
    rw [add_comm, zpow_add₀ two_ne_zero, ← div_lt_iff₀ place] at below
    have power : x.mantissa = Nat.pow 2 52 := by
      by_contra other
      have more : 2 ^ 52 + 1 ≤ x.mantissa := by
        rw [← Nat.pow_eq]
        omega
      have more : (2 : ℚ) ^ (52 : ℤ) + 1 ≤ x.mantissa := by exact_mod_cast more
      linarith
    refine .inr ⟨power, ?_⟩
    have lower := rounds.lower
    rw [lowerQuarters, if_pos ⟨power, by omega⟩, power, quarter_zpow, mul_div_assoc', div_le_iff₀ four_pos] at lower
    rw [zpow_sub_one₀ two_ne_zero, le_div_iff₀ (by positivity)]
    norm_num at lower ⊢
    linarith
  · exact .inl lowest

/-- Just below a power of two, a quotient is in the binade below, where its mantissa is rounded
up to the next one. -/
lemma round?_of_lt_zpow (positive : 0 < num) (positive' : 0 < den) (power : x.mantissa = Nat.pow 2 52)
    (same : exponentFor num den = x.exponent - 1)
    (close : (Nat.pow 2 53 : ℕ) - 1 / 2 ≤ (num : ℚ) / den / 2 ^ (x.exponent - 1))
    (below : (num : ℚ) / den < 2 ^ (x.exponent + 52)) : round? x.negative num den = some x := by
  have place : (0 : ℚ) < 2 ^ (x.exponent - 1) := by positivity
  have scaled_lt : (num : ℚ) / den / 2 ^ (x.exponent - 1) < (Nat.pow 2 53 : ℕ) := by
    rw [div_lt_iff₀ place]
    refine below.trans_eq ?_
    rw [show x.exponent + 52 = 53 + (x.exponent - 1) by ring, zpow_add₀ two_ne_zero]
    norm_num
  have mantissa : scaledMantissa num den (x.exponent - 1) = Nat.pow 2 53 := by
    rw [scaledMantissa_eq_iff positive', IsNearest, abs_of_nonneg (by linarith)]
    exact ⟨by linarith, fun _ => rfl⟩
  rw [round?, if_neg positive.ne', same]
  dsimp only
  rw [mantissa, if_pos rfl]
  obtain ⟨negative, m, e, canonical⟩ := x
  dsimp only at power ⊢
  subst power
  rw [sub_add_cancel]
  exact dif_pos canonical

/-- **A quotient that rounds to a double is rounded to it.** -/
theorem RoundsTo.round?_eq (positive : 0 < num) (positive' : 0 < den)
    (rounds : RoundsTo ((num : ℚ) / den) x) : round? x.negative num den = some x := by
  obtain ⟨e, chosen, lower, upper⟩ := exists_exponentFor positive positive'
  have least := x.canonical.2.1
  have at_most := lt_zpow_iff.mp (lower.trans_lt rounds.lt_zpow)
  rcases le_or_gt (2 ^ (x.exponent + 52)) ((num : ℚ) / den) with within | below
  · have at_least := lt_zpow_iff.mp (within.trans_lt upper)
    exact rounds.round?_of_exponentFor positive positive' (by omega)
  · have under := lt_zpow_iff.mp (lower.trans_lt below)
    by_cases lowest : x.exponent = -1074
    · exact rounds.round?_of_exponentFor positive positive' (by omega)
    obtain ⟨power, close⟩ := (rounds.of_lt_zpow below).resolve_left lowest
    have at_least : x.exponent - 1 + 52 < e + 53 := by
      refine lt_zpow_iff.mp (lt_of_le_of_lt ?_ upper)
      rw [add_comm, zpow_add₀ two_ne_zero, ← le_div_iff₀ (by positivity)]
      refine le_trans ?_ close
      norm_num
    exact round?_of_lt_zpow positive positive' power (by omega) close below

end RecordRules.Binary64
