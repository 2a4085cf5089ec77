/-
The shortest decimal number that a double is read back from.

* `Binary64.readsBack`: the decimals that round to a double, as an interval in
  whole numbers;
* `Binary64.shortest`: the fewest digits with a decimal in that interval, and of
  two such decimals the nearer one.
-/
import RecordRules.Decimal.Binary64
import RecordRules.Decimal.Digits

namespace RecordRules

/-- A positive decimal number `coefficient · 10 ^ exponent`. -/
structure DecimalNumber where
  coefficient : Nat
  exponent : Int
  deriving DecidableEq, Repr

namespace Binary64

/-- The reals that round to `x ≠ 0` lie between two bounds, taken here in units
of a quarter of the last place of `x`. The lower gap is half as wide at a power
of two. -/
def lowerQuarters (x : Binary64) : Nat :=
  if x.mantissa = Nat.pow 2 52 ∧ -1074 < x.exponent then 4 * x.mantissa - 1 else 4 * x.mantissa - 2

/-- The upper bound, in units of a quarter of the last place. -/
def upperQuarters (x : Binary64) : Nat := 4 * x.mantissa + 2

/-- A quarter of the last place as a fraction: its numerator. -/
def quarterNumerator (x : Binary64) : Nat := Nat.pow 2 (x.exponent - 2).toNat

/-- The denominator of a quarter of the last place. -/
def quarterDenominator (x : Binary64) : Nat := Nat.pow 2 (2 - x.exponent).toNat

/-- Whether `d · 10 ^ k` is in the interval of the reals that round to `x`. The
bounds belong to it iff the mantissa is even. -/
def readsBack (x : Binary64) (d : Nat) (k : Int) : Bool :=
  let value := d * Nat.pow 10 k.toNat * x.quarterDenominator
  let unit := x.quarterNumerator * Nat.pow 10 (-k).toNat
  if x.mantissa % 2 = 0 then
    x.lowerQuarters * unit ≤ value && value ≤ x.upperQuarters * unit
  else x.lowerQuarters * unit < value && value < x.upperQuarters * unit

/-- The magnitude of `x` divided by `10 ^ k`, as a fraction. -/
def onGrid (x : Binary64) (k : Int) : Nat × Nat :=
  (x.numerator * Nat.pow 10 (-k).toNat, x.denominator * Nat.pow 10 k.toNat)

/-- The decimal of the grid `10 ^ k` that reads back as `x`, if there is one. Of
the two neighbours of `x` the nearer one is preferred, and the even one in a
tie. -/
def hitOnGrid? (x : Binary64) (k : Int) : Option DecimalNumber :=
  let (num, den) := x.onGrid k
  let below := num / den
  let nearest := roundHalfEven num den
  let other := if nearest = below then below + 1 else below
  if x.readsBack nearest k then some ⟨nearest, k⟩
  else if x.readsBack other k then some ⟨other, k⟩
  else none

/-- A power of ten that is at least the magnitude of `x`. -/
def gridStart (x : Binary64) : Int :=
  (x.exponent + Nat.log2 x.mantissa + 1) * 30103 / 100000 + 1

/-- Removes the zeros at the end of a coefficient. -/
def stripZeros (coefficient : Nat) (exponent : Int) : DecimalNumber :=
  if h : 0 < coefficient ∧ coefficient % 10 = 0 then stripZeros (coefficient / 10) (exponent + 1)
  else ⟨coefficient, exponent⟩
termination_by coefficient
decreasing_by omega

/-- The decimal with the fewest digits that reads back as `x ≠ 0`: the first hit
on the grids from coarse to fine. Seventeen digits always suffice. -/
def shortest (x : Binary64) : DecimalNumber :=
  match (List.range 21).findSome? fun (i : Nat) => x.hitOnGrid? (x.gridStart - i) with
  | some hit => stripZeros hit.coefficient hit.exponent
  | none => ⟨x.numerator, 0⟩

end Binary64

end RecordRules
