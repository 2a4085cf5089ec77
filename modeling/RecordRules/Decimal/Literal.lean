/-
Decimal literals and their values.

* `Literal`: sign, digits before and after the point, exponent;
* `Literal.nearest`: the double nearest to the literal, correctly rounded;
* `Literal.stepwise?`: the value that JSON texts have: at most 64 bits of the
  digits are kept and then scaled by powers of ten, each step rounded.
-/
import RecordRules.Decimal.Binary64
import RecordRules.Decimal.Digits

namespace RecordRules

/-- A decimal literal `± whole . fraction e ± exponent`. -/
structure Literal where
  negative : Bool
  whole : List Char
  /-- The digits after the point, if there is a point. -/
  fraction : Option (List Char)
  /-- The sign and the digits of the exponent, if there is one. -/
  exponent : Option (Bool × List Char)
  deriving DecidableEq, Repr

namespace Literal

/-- The exponent as a number. -/
def exponentValue (literal : Literal) : Int :=
  match literal.exponent with
  | some (true, digits) => -(numberOf digits : Int)
  | some (false, digits) => numberOf digits
  | none => 0

/-- The double nearest to the literal, or an infinity. -/
def nearest (literal : Literal) : Extended :=
  let fraction := literal.fraction.getD []
  let digits := literal.whole ++ fraction
  let coefficient := numberOf digits
  .ofRounded literal.negative
    (Binary64.ofDecimal? literal.negative coefficient (digitsOf coefficient).length
      (literal.exponentValue - fraction.length))

/-! ### Stepwise reading -/

/-- The largest significand that is kept. -/
def significandMax : Nat := 18446744073709551615

/-- Takes up digits while the significand has 64 bits. Gives the significand
and the digits that did not fit. -/
def takeDigits : Nat → List Char → Nat × List Char
  | significand, [] => (significand, [])
  | significand, c :: rest =>
    let next := 10 * significand + digitValue c
    if next ≤ significandMax then takeDigits next rest else (significand, c :: rest)

/-- The double nearest to a power of ten. -/
def powerOfTen? (k : Nat) : Option Binary64 := Binary64.ofNat? false (Nat.pow 10 k)

/-- A double divided by `10 ^ 308`. -/
def stepDown? (x : Binary64) : Option Binary64 := (powerOfTen? 308).bind x.div?

/-- A double times a power of ten that a double can hold, rounded. -/
def scaleOnce? (x : Binary64) (exponent : Int) : Option Binary64 :=
  if 0 ≤ exponent then (powerOfTen? exponent.toNat).bind x.mul?
  else (powerOfTen? (-exponent).toNat).bind x.div?

/-- The number of steps of `10 ^ 308` after which at most 308 places are left.
Three steps take every 64-bit significand to zero, so more make no difference. -/
def stepCount (exponent : Int) : Nat := ((-exponent).toNat - 1) / 308

/-- Scales a double by a power of ten in steps of at most 308 places, each
rounded. `none` if the result exceeds the largest double. -/
def scale? (x : Binary64) (exponent : Int) : Option Binary64 :=
  if 308 < exponent then (if x.mantissa = 0 then some x else none)
  else if -308 ≤ exponent then scaleOnce? x exponent
  else do
    let steps := stepCount exponent
    let y ← (List.replicate (min steps 3) ()).foldlM (fun y _ => stepDown? y) x
    scaleOnce? y (exponent + 308 * steps)

/-- The double of `significand · 10 ^ exponent` by `scale?`, with a sign. -/
def ofParts? (negative : Bool) (significand : Nat) (exponent : Int) : Option Binary64 := do
  let x ← scale? (← Binary64.ofNat? false significand) exponent
  some { x with negative := negative }

/-- The value of a literal with a point, an exponent, or a whole part that does
not fit into 64 bits. Digits that do not fit are dropped; those of the whole
part count as powers of ten. `none` if the value exceeds the largest double. -/
def stepwise? (literal : Literal) : Option Binary64 :=
  let (significand, dropped) := takeDigits 0 literal.whole
  let (significand, dropped, places) :=
    match literal.fraction with
    | none => (significand, dropped.length, 0)
    | some fraction =>
      let (longer, left) := takeDigits significand fraction
      (longer, dropped.length, fraction.length - left.length)
  let start : Int := (dropped : Int) - places
  match literal.exponent with
  | none => ofParts? literal.negative significand start
  | some (below, digits) =>
    if 2147483648 ≤ numberOf digits then
      if significand ≠ 0 ∧ below = false then none else some (.zero literal.negative)
    else
      ofParts? literal.negative significand
        (if below then start - numberOf digits else start + numberOf digits)

end Literal

end RecordRules
