import Reckon.Binary64.Rounding

/-!
# Decimal fractions

A decimal is a coefficient times a power of ten.  This module holds what both ways of
printing a number share: where the leading digit of a quotient stands, how often a
power of ten goes into a quotient, and the shortened form, in which the coefficient
does not end in a zero.
-/

namespace Reckon

/-- A power of ten. -/
abbrev tenTo (exponent : Nat) : Nat := Nat.pow 10 exponent

theorem tenTo_succ (exponent : Nat) : tenTo (exponent + 1) = 10 * tenTo exponent :=
  Nat.mul_comm _ _

/-- The number `coefficient * 10 ^ exponent`. -/
structure Decimal where
  coefficient : Nat
  exponent : Int
  deriving DecidableEq, Repr

/-- How many decimal digits a number has; zero has none. -/
def digitCount (n : Nat) : Nat :=
  if n = 0 then 0 else digitCount (n / 10) + 1

/-- A number lies below the power of ten of its digits. -/
theorem lt_tenTo_digitCount (n : Nat) : n < tenTo (digitCount n) := by
  fun_induction digitCount n with
  | case1 => decide
  | case2 n _ ih => rw [tenTo_succ]; omega

/-- A positive number is not below a tenth of that power. -/
theorem tenTo_digitCount_le {n : Nat} (h : n ≠ 0) : tenTo (digitCount n) ≤ 10 * n := by
  fun_induction digitCount n with
  | case1 => exact absurd rfl h
  | case2 n _ ih =>
    rw [tenTo_succ]
    by_cases small : n / 10 = 0
    · rw [small, digitCount, if_pos rfl]
      exact Nat.mul_le_mul_left 10 (Nat.pos_of_ne_zero h)
    · have := ih small
      omega

namespace Decimal

/-- The same number with the zeros at the end of the coefficient moved into the exponent. -/
def shorten (coefficient : Nat) (exponent : Int) : Decimal :=
  if coefficient ≠ 0 ∧ coefficient % 10 = 0 then shorten (coefficient / 10) (exponent + 1)
  else ⟨coefficient, exponent⟩
termination_by coefficient

/-- Shortening does not change the number. -/
theorem shorten_value (coefficient : Nat) (exponent : Int) :
    ∃ zeros : Nat, (shorten coefficient exponent).exponent = exponent + zeros ∧
      (shorten coefficient exponent).coefficient * tenTo zeros = coefficient := by
  fun_induction shorten coefficient exponent with
  | case1 coefficient exponent h ih =>
    obtain ⟨zeros, moved, same⟩ := ih
    refine ⟨zeros + 1, by omega, ?_⟩
    rw [tenTo_succ, Nat.mul_left_comm, same]
    omega
  | case2 coefficient exponent => exact ⟨0, by simp, by simp⟩

/-- The power of ten at which the leading digit of a positive quotient stands.

At or above one it is read off the whole part.  Below one, the quotient reaches
`10 ^ (-k)` exactly when the whole part of its inverse, taken just short of it, has at
most `k` digits. -/
def leadingExponent (num den : Nat) : Int :=
  if den ≤ num then (digitCount (num / den) : Int) - 1
  else -(digitCount ((den - 1) / num) : Int)

/-- A quotient in multiples of a power of ten, as a quotient. -/
def inMultiplesOf (exponent : Int) (num den : Nat) : Nat × Nat :=
  (num * tenTo (-exponent).toNat, den * tenTo exponent.toNat)

/-- The rank of the finite magnitude nearest to a decimal. -/
def nearestRank (d : Decimal) : Nat :=
  Binary64.nearestRank (d.coefficient * tenTo d.exponent.toNat * Binary64.unitsPerOne)
    (tenTo (-d.exponent).toNat)

end Decimal

end Reckon
