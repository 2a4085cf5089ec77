/-
Double-precision numbers as exact dyadic rationals.

* `Binary64`: a finite double, `± mantissa · 2 ^ exponent`;
* `Binary64.round?`: the double nearest to a quotient of natural numbers, ties
  to the even mantissa, `none` beyond the largest double;
* `Binary64.mul?`, `Binary64.div?`, `Binary64.ofDecimal?`: operations that
  round once;
* `Binary64.le`: the order, compared in whole numbers;
* `Extended`: doubles with the two infinities.
-/

namespace RecordRules

/-- The mantissas and exponents of finite doubles. A mantissa has 53 binary digits;
it has fewer only at the least exponent, so every number has one form. -/
def Binary64.IsCanonical (mantissa : Nat) (exponent : Int) : Prop :=
  mantissa < Nat.pow 2 53 ∧ -1074 ≤ exponent ∧ exponent ≤ 971 ∧
    (Nat.pow 2 52 ≤ mantissa ∨ exponent = -1074)

instance (mantissa : Nat) (exponent : Int) : Decidable (Binary64.IsCanonical mantissa exponent) :=
  inferInstanceAs (Decidable (_ ∧ _))

/-- A finite double: the number `mantissa · 2 ^ exponent` with a sign. -/
structure Binary64 where
  negative : Bool
  mantissa : Nat
  exponent : Int
  canonical : Binary64.IsCanonical mantissa exponent
  deriving DecidableEq, Repr

namespace Binary64

/-- Zero, with either sign. -/
def zero (negative : Bool) : Binary64 := ⟨negative, 0, -1074, by decide⟩

/-- Numerator of the magnitude as a fraction over `denominator`. -/
def numerator (x : Binary64) : Nat := x.mantissa * Nat.pow 2 x.exponent.toNat

/-- Denominator of the magnitude: a power of two. -/
def denominator (x : Binary64) : Nat := Nat.pow 2 (-x.exponent).toNat

/-- The quotient `num / den` rounded to the nearest natural number, a tie going
to the even one. -/
def roundHalfEven (num den : Nat) : Nat :=
  let q := num / den
  let twice := 2 * (num % den)
  if twice < den then q
  else if den < twice then q + 1
  else if q % 2 = 0 then q else q + 1

/-- The quotient `num / (den · 2 ^ e)` rounded to a natural number. -/
def scaledMantissa (num den : Nat) (e : Int) : Nat :=
  roundHalfEven (num * Nat.pow 2 (-e).toNat) (den * Nat.pow 2 e.toNat)

/-- The exponent at which `num / den` has a mantissa of 53 binary digits, or the
least exponent if that is larger. -/
def exponentFor (num den : Nat) : Int :=
  let e : Int := (Nat.log2 num : Int) - Nat.log2 den - 53
  let floor := (num * Nat.pow 2 (-e).toNat) / (den * Nat.pow 2 e.toNat)
  max (-1074) (if Nat.pow 2 53 ≤ floor then e + 1 else e)

/-- The double nearest to `num / den`; `none` if that exceeds the largest
double. -/
def round? (negative : Bool) (num den : Nat) : Option Binary64 :=
  if num = 0 then some (zero negative)
  else
    let e := exponentFor num den
    let m := scaledMantissa num den e
    let (m, e) := if m = Nat.pow 2 53 then (Nat.pow 2 52, e + 1) else (m, e)
    -- the mantissa has its 53 digits by the choice of `e`, which may be too large
    if canonical : IsCanonical m e then some ⟨negative, m, e, canonical⟩ else none

/-- The double nearest to a natural number. -/
def ofNat? (negative : Bool) (n : Nat) : Option Binary64 := round? negative n 1

/-- The product, rounded. -/
def mul? (x y : Binary64) : Option Binary64 :=
  round? (x.negative != y.negative) (x.numerator * y.numerator) (x.denominator * y.denominator)

/-- The quotient by a number that is not zero, rounded. -/
def div? (x y : Binary64) : Option Binary64 :=
  round? (x.negative != y.negative) (x.numerator * y.denominator) (x.denominator * y.numerator)

/-- The double nearest to `coefficient · 10 ^ exponent`. Exponents that are out
of reach for the number of digits are decided without forming the power. -/
def ofDecimal? (negative : Bool) (coefficient digits : Nat) (exponent : Int) : Option Binary64 :=
  if coefficient = 0 then some (zero negative)
  else if 400 < exponent + digits then none
  else if exponent + digits < -400 then some (zero negative)
  else round? negative (coefficient * Nat.pow 10 exponent.toNat) (Nat.pow 10 (-exponent).toNat)

/-- The magnitude with its sign, over `denominator`. -/
def signedNumerator (x : Binary64) : Int := if x.negative then -x.numerator else x.numerator

/-- The order of the numbers; both zeros are equal. -/
def le (x y : Binary64) : Bool :=
  x.signedNumerator * y.denominator ≤ y.signedNumerator * x.denominator

/-- Equality of the numbers; both zeros are equal. -/
def same (x y : Binary64) : Bool := le x y && le y x

/-- The whole part: the number without its fraction. -/
def truncate (x : Binary64) : Int :=
  if x.negative then -((x.numerator / x.denominator : Nat) : Int)
  else (x.numerator / x.denominator : Nat)

end Binary64

/-! ### With infinities -/

/-- A double or an infinity. -/
inductive Extended where
  | finite (x : Binary64)
  | infinite (negative : Bool)
  deriving DecidableEq, Repr

namespace Extended

/-- A reading that has no finite double is infinite. -/
def ofRounded (negative : Bool) : Option Binary64 → Extended
  | some x => finite x
  | none => infinite negative

/-- Not an infinity. -/
def isFinite : Extended → Bool
  | finite _ => true
  | infinite _ => false

/-- The order, in which the infinities are least and greatest. -/
def le : Extended → Extended → Bool
  | finite x, finite y => x.le y
  | infinite true, _ => true
  | _, infinite false => true
  | infinite false, infinite true => false
  | infinite false, finite _ => false
  | finite _, infinite true => false

end Extended

end RecordRules
