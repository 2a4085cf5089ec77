/-
Decimal digits of natural numbers.

* `digitsOf`: the digits of a number, without leading zeros;
* `numberOf`: the number that digits write, by place value;
* `numberOf_digitsOf`: writing and reading a number gives it back.
-/

namespace RecordRules

/-- The value of an ASCII digit. -/
def digitValue (c : Char) : Nat := c.toNat - '0'.toNat

/-- The ASCII digit of a value below ten. -/
def digitChar (d : Nat) : Char := Char.ofNat ('0'.toNat + d)

/-- The number written by decimal digits, continuing after the number `start`. -/
def numberFrom (start : Nat) (digits : List Char) : Nat :=
  digits.foldl (fun n c => 10 * n + digitValue c) start

/-- The number written by decimal digits. -/
def numberOf (digits : List Char) : Nat := numberFrom 0 digits

/-- The decimal digits of a number; zero has one digit. -/
def digitsOf (n : Nat) : List Char :=
  if n < 10 then [digitChar n] else digitsOf (n / 10) ++ [digitChar (n % 10)]
termination_by n
decreasing_by omega

/-- A number in decimal notation, with a minus sign if it is negative. -/
def integerText (n : Int) : List Char :=
  if n < 0 then '-' :: digitsOf n.natAbs else digitsOf n.natAbs

theorem digitValue_digitChar {d : Nat} (h : d < 10) : digitValue (digitChar d) = d := by
  have all : ∀ e ∈ List.range 10, digitValue (digitChar e) = e := by decide
  exact all d (List.mem_range.2 h)

/-- The digits of a number write that number. -/
theorem numberOf_digitsOf (n : Nat) : numberOf (digitsOf n) = n := by
  induction n using Nat.strongRecOn with
  | _ n ih =>
    rw [digitsOf]
    split
    · next small => simp [numberOf, numberFrom, digitValue_digitChar small]
    · next large =>
      have shorter := ih (n / 10) (by omega)
      have last : digitValue (digitChar (n % 10)) = n % 10 := digitValue_digitChar (by omega)
      simp only [numberOf, numberFrom, List.foldl_append, List.foldl_cons, List.foldl_nil] at shorter ⊢
      rw [shorter, last]
      omega

end RecordRules
