/-
The shortest digits of a double are read back as the double.

* `DecimalNumber.value`: the number that a decimal number is;
* `readsBack_iff`: what reads back as a double is what rounds to it;
* `exists_hit`: the search for digits ends;
* `roundsTo_shortest`: the number that is found rounds to the double;
* `ofDecimal?_eq`: a decimal number that rounds to a double is read as it.
-/
import RecordRules.Proofs.Decimal.Digits
import RecordRules.Proofs.Decimal.Rounding

namespace RecordRules

/-- The value of a decimal number. -/
def DecimalNumber.value (d : DecimalNumber) : ℚ := d.coefficient * 10 ^ d.exponent

namespace Binary64

variable {x : Binary64} {d : ℕ} {k : ℤ}

/-! ### Reading back -/

lemma cast_quarters (n : ℕ) (x : Binary64) :
    (n : ℚ) * 2 ^ (x.exponent - 2) = n * (x.quarterNumerator : ℚ) / x.quarterDenominator := by
  rw [quarterNumerator, quarterDenominator, zpow_eq_toNat two_ne_zero, neg_sub, mul_div_assoc]
  simp only [Nat.pow_eq, Nat.cast_pow, Nat.cast_ofNat]

lemma cast_decimal (d : ℕ) (k : ℤ) :
    (d : ℚ) * 10 ^ k = ((d * Nat.pow 10 k.toNat : ℕ) : ℚ) / (Nat.pow 10 (-k).toNat : ℕ) := by
  rw [zpow_eq_toNat (by norm_num), ← mul_div_assoc]
  simp only [Nat.pow_eq, Nat.cast_mul, Nat.cast_pow, Nat.cast_ofNat]

/-- Quarters of a place are compared with decimal numbers in whole numbers. -/
lemma quarters_le_iff (n d : ℕ) (k : ℤ) (x : Binary64) :
    ((n : ℚ) * 2 ^ (x.exponent - 2) ≤ d * 10 ^ k ↔
        n * (x.quarterNumerator * Nat.pow 10 (-k).toNat) ≤ d * Nat.pow 10 k.toNat * x.quarterDenominator) ∧
      ((d : ℚ) * 10 ^ k ≤ n * 2 ^ (x.exponent - 2) ↔
        d * Nat.pow 10 k.toNat * x.quarterDenominator ≤ n * (x.quarterNumerator * Nat.pow 10 (-k).toNat)) := by
  have quarter : (0 : ℚ) < x.quarterDenominator := Nat.cast_pos.mpr (Nat.pow_pos (by decide))
  have ten : (0 : ℚ) < (Nat.pow 10 (-k).toNat : ℕ) := Nat.cast_pos.mpr (Nat.pow_pos (by decide))
  rw [cast_quarters, cast_decimal, div_le_div_iff₀ quarter ten, div_le_div_iff₀ ten quarter, ← Nat.mul_assoc]
  exact ⟨by exact_mod_cast Iff.rfl, by exact_mod_cast Iff.rfl⟩

/-- What reads back as a double is what rounds to it. -/
lemma readsBack_iff : x.readsBack d k = true ↔ RoundsTo (d * 10 ^ k) x := by
  have bounds := quarters_le_iff x.lowerQuarters d k x
  have bounds' := quarters_le_iff x.upperQuarters d k x
  rw [readsBack]
  split
  · next even =>
    rw [Bool.and_eq_true, decide_eq_true_eq, decide_eq_true_eq, ← bounds.1, ← bounds'.2]
    exact ⟨fun h => ⟨h.1, h.2, fun odd => absurd odd (by omega)⟩, fun h => ⟨h.lower, h.upper⟩⟩
  · next odd =>
    rw [Bool.and_eq_true, decide_eq_true_eq, decide_eq_true_eq, ← not_le, ← not_le, ← bounds.2, ← bounds'.1, not_le,
      not_le]
    exact ⟨fun h => ⟨h.1.le, h.2.le, fun _ => h⟩, fun h => h.inside (by omega)⟩

/-! ### The search -/

/-- A hit reads back. -/
lemma roundsTo_of_hit {hit : DecimalNumber} (found : x.hitOnGrid? k = some hit) : RoundsTo hit.value x := by
  rw [hitOnGrid?] at found
  dsimp only at found
  split at found
  · next back =>
    cases found
    exact readsBack_iff.mp back
  · rw [Option.ite_none_right_eq_some] at found
    obtain ⟨back, same⟩ := found
    cases same
    exact readsBack_iff.mp back

/-- A number that is nearer than a quarter of a place to a double rounds to it. -/
lemma roundsTo_of_abs_lt {v : ℚ} (nonzero : x.mantissa ≠ 0)
    (near : |v - x.mantissa * 2 ^ x.exponent| < 2 ^ (x.exponent - 2)) : RoundsTo v x := by
  have quarter : (0 : ℚ) < 2 ^ (x.exponent - 2) := by positivity
  have lower : (x.lowerQuarters : ℚ) + 1 ≤ 4 * x.mantissa := by
    have : x.lowerQuarters + 1 ≤ 4 * x.mantissa := by
      rw [lowerQuarters]
      split <;> omega
    exact_mod_cast this
  have upper : (x.upperQuarters : ℚ) = 4 * x.mantissa + 2 := by
    rw [upperQuarters]
    push_cast
    ring
  have whole : (2 : ℚ) ^ x.exponent = 4 * 2 ^ (x.exponent - 2) := by
    rw [quarter_zpow]
    ring
  rw [whole, abs_lt] at near
  have above : x.lowerQuarters * 2 ^ (x.exponent - 2) < v := by nlinarith
  have below : v < x.upperQuarters * 2 ^ (x.exponent - 2) := by
    rw [upper]
    nlinarith
  exact ⟨above.le, below.le, fun _ => ⟨above, below⟩⟩

/-- A double over a power of ten, as a quotient of natural numbers. -/
lemma onGrid_div (x : Binary64) (k : ℤ) :
    ((x.onGrid k).1 : ℚ) / (x.onGrid k).2 = x.mantissa * 2 ^ x.exponent / 10 ^ k := by
  rw [onGrid, numerator, denominator, zpow_eq_toNat two_ne_zero, zpow_eq_toNat (b := 10) (by norm_num), ← mul_div_assoc,
    div_div_div_eq]
  simp only [Nat.pow_eq, Nat.cast_mul, Nat.cast_pow, Nat.cast_ofNat]

/-- On a grid that is finer than half a place there is a hit. -/
lemma exists_hit_of_fine (nonzero : x.mantissa ≠ 0) (fine : (10 : ℚ) ^ k < 2 ^ (x.exponent - 1)) :
    ∃ hit, x.hitOnGrid? k = some hit := by
  have positive : 0 < (x.onGrid k).2 := Nat.mul_pos (Nat.pow_pos (by decide)) (Nat.pow_pos (by decide))
  have step : (0 : ℚ) < 10 ^ k := by positivity
  have back : x.readsBack (roundHalfEven (x.onGrid k).1 (x.onGrid k).2) k = true := by
    refine readsBack_iff.mpr (roundsTo_of_abs_lt nonzero ?_)
    have near : |_ - ((x.onGrid k).1 : ℚ) / (x.onGrid k).2| ≤ 1 / 2 := (isNearest_roundHalfEven positive).1
    rw [onGrid_div, ← mul_le_mul_iff_left₀ step, ← abs_of_pos step, ← abs_mul, abs_of_pos step, sub_mul,
      div_mul_cancel₀ _ step.ne'] at near
    refine near.trans_lt ?_
    rw [show x.exponent - 2 = x.exponent - 1 - 1 by ring, zpow_sub_one₀ two_ne_zero]
    linarith
  rw [hitOnGrid?]
  exact ⟨_, if_pos back⟩

/-- The last grid of the search is finer than half a place, whatever the exponent is. -/
lemma ten_zpow_lt {e : ℤ} (least : -1074 ≤ e) (greatest : e ≤ 971) :
    (10 : ℚ) ^ ((e + 53) * 30103 / 100000 - 19) < 2 ^ (e - 1) := by
  have all : (List.range 2046).all (fun i =>
      let k := ((i : ℤ) - 1021) * 30103 / 100000 - 19
      10 ^ k.toNat * 2 ^ (1075 - (i : ℤ)).toNat < 2 ^ ((i : ℤ) - 1075).toNat * 10 ^ (-k).toNat) = true := by
    decide +kernel
  have here := List.all_eq_true.mp all (e + 1074).toNat (List.mem_range.mpr (by omega))
  rw [Int.toNat_of_nonneg (by omega), show e + 1074 - 1021 = e + 53 by ring,
    show e + 1074 - 1075 = e - 1 by ring, show 1075 - (e + 1074) = -(e - 1) by ring] at here
  rw [zpow_eq_toNat (by norm_num), zpow_eq_toNat two_ne_zero, div_lt_div_iff₀ (by positivity) (by positivity)]
  exact_mod_cast of_decide_eq_true here

/-- A mantissa has at most 53 binary digits. -/
lemma gridStart_le (x : Binary64) : x.gridStart ≤ (x.exponent + 53) * 30103 / 100000 + 1 := by
  have digits : Nat.log2 x.mantissa < 53 := by
    by_cases nonzero : x.mantissa = 0
    · rw [nonzero]
      decide
    · rw [Nat.log2_lt nonzero, ← Nat.pow_eq]
      exact x.canonical.1
  rw [gridStart]
  omega

/-- The search for digits ends with a hit. -/
lemma exists_hit (nonzero : x.mantissa ≠ 0) :
    ∃ hit, (List.range 21).findSome? (fun (i : ℕ) => x.hitOnGrid? (x.gridStart - i)) = some hit := by
  have fine : (10 : ℚ) ^ (x.gridStart - 20) < 2 ^ (x.exponent - 1) := by
    refine lt_of_le_of_lt ?_ (ten_zpow_lt x.canonical.2.1 x.canonical.2.2.1)
    exact zpow_le_zpow_right₀ (by norm_num) (by linarith [x.gridStart_le])
  obtain ⟨hit, found⟩ := exists_hit_of_fine nonzero fine
  rw [← Option.isSome_iff_exists, List.findSome?_isSome_iff]
  exact ⟨20, by decide, Option.isSome_iff_exists.mpr ⟨hit, found⟩⟩

lemma value_stripZeros (coefficient : ℕ) (exponent : ℤ) :
    (stripZeros coefficient exponent).value = coefficient * 10 ^ exponent := by
  fun_induction stripZeros coefficient exponent with
  | case1 coefficient exponent h ih =>
    have tenfold : (coefficient : ℚ) = (coefficient / 10 : ℕ) * 10 := by
      exact_mod_cast (Nat.div_mul_cancel (Nat.dvd_of_mod_eq_zero h.2)).symm
    rw [ih, zpow_add_one₀ (by norm_num), tenfold]
    ring
  | case2 => rfl

/-- **The shortest digits of a double write a number that rounds to it.** -/
theorem roundsTo_shortest (nonzero : x.mantissa ≠ 0) : RoundsTo x.shortest.value x := by
  obtain ⟨hit, found⟩ := exists_hit nonzero
  obtain ⟨i, -, hits⟩ := List.exists_of_findSome?_eq_some found
  rw [shortest, found]
  dsimp only
  rw [value_stripZeros]
  exact roundsTo_of_hit hits

/-! ### Reading -/

/-- The count of the digits of a number bounds it. -/
lemma digitsOf_bounds {n : ℕ} (nonzero : n ≠ 0) :
    10 ^ ((digitsOf n).length - 1) ≤ n ∧ n < 10 ^ (digitsOf n).length := by
  induction n using Nat.strongRecOn with
  | _ n ih =>
    rw [digitsOf]
    split
    · next small =>
      rw [List.length_singleton]
      omega
    · next large =>
      obtain ⟨lower, upper⟩ := ih (n / 10) (by omega) (by omega)
      have some_digit := List.length_pos_iff.mpr (digitsOf_ne_nil (n / 10))
      obtain ⟨k, count⟩ := Nat.exists_eq_add_one_of_ne_zero some_digit.ne'
      rw [count, Nat.add_sub_cancel] at lower
      rw [count, Nat.pow_succ] at upper
      rw [List.length_append, List.length_singleton, count, Nat.add_sub_cancel, Nat.pow_succ, Nat.pow_succ]
      omega

/-- No double and no half of a place is beyond these powers of ten. -/
lemma two_zpow_lt : (2 : ℚ) ^ (1076 : ℤ) < 10 ^ (400 : ℤ) := by
  have powers : 2 ^ 1076 < 10 ^ 400 := by decide +kernel
  exact_mod_cast powers

/-- Numbers whose point is far from their digits round to no double. -/
lemma RoundsTo.point_bounds {coefficient digits : ℕ} {exponent : ℤ} (nonzero : x.mantissa ≠ 0)
    (rounds : RoundsTo (coefficient * 10 ^ exponent) x) (lower : 10 ^ (digits - 1) ≤ coefficient)
    (upper : coefficient < 10 ^ digits) : -400 ≤ exponent + digits ∧ exponent + digits ≤ 400 := by
  have lower : (10 : ℚ) ^ (digits - 1) ≤ coefficient := by exact_mod_cast lower
  have upper : (coefficient : ℚ) < 10 ^ digits := by exact_mod_cast upper
  constructor
  · by_contra small
    have few := calc (2 : ℚ) ^ (-1076 : ℤ)
        ≤ 2 ^ (x.exponent - 2) := zpow_le_zpow_right₀ (by norm_num) (by linarith [x.canonical.2.1])
      _ ≤ x.lowerQuarters * 2 ^ (x.exponent - 2) := le_mul_of_one_le_left (by positivity) (one_le_lowerQuarters nonzero)
      _ ≤ coefficient * 10 ^ exponent := rounds.lower
      _ < 10 ^ digits * 10 ^ exponent := by gcongr
      _ = 10 ^ (exponent + digits) := by rw [zpow_add₀ (by norm_num), zpow_natCast, mul_comm]
      _ ≤ 10 ^ (-400 : ℤ) := zpow_le_zpow_right₀ (by norm_num) (by omega)
    rw [zpow_neg, zpow_neg, inv_lt_inv₀ (by positivity) (by positivity)] at few
    exact few.asymm two_zpow_lt
  · by_contra large
    have many := calc (10 : ℚ) ^ (400 : ℤ)
        ≤ 10 ^ (((digits - 1 : ℕ) : ℤ) + exponent) := zpow_le_zpow_right₀ (by norm_num) (by omega)
      _ = 10 ^ (digits - 1) * 10 ^ exponent := by rw [zpow_add₀ (by norm_num), zpow_natCast]
      _ ≤ coefficient * 10 ^ exponent := by gcongr
      _ < 2 ^ (x.exponent + 53) := rounds.lt_zpow
      _ ≤ 2 ^ (1076 : ℤ) := zpow_le_zpow_right₀ (by norm_num) (by linarith [x.canonical.2.2.1])
    exact many.asymm two_zpow_lt

/-- **A decimal number that rounds to a double is read as the double.** -/
theorem ofDecimal?_eq {coefficient : ℕ} {exponent : ℤ} (nonzero : x.mantissa ≠ 0)
    (rounds : RoundsTo (coefficient * 10 ^ exponent) x) :
    ofDecimal? x.negative coefficient (digitsOf coefficient).length exponent = some x := by
  have some_digit : coefficient ≠ 0 := by
    rintro rfl
    have positive := rounds.pos nonzero
    rw [Nat.cast_zero, zero_mul] at positive
    exact positive.false
  obtain ⟨lower, upper⟩ := digitsOf_bounds some_digit
  obtain ⟨not_small, not_large⟩ := rounds.point_bounds nonzero lower upper
  rw [ofDecimal?, if_neg some_digit, if_neg not_large.not_gt, if_neg not_small.not_gt]
  refine RoundsTo.round?_eq (Nat.mul_pos (Nat.pos_of_ne_zero some_digit) (Nat.pow_pos (by decide)))
    (Nat.pow_pos (by decide)) ?_
  rwa [← cast_decimal]

end Binary64

end RecordRules
