import Reckon.Binary64.Basic

/-!
# Rounding a quotient to the nearest datum

Addition, multiplication, division and the reading of a decimal numeral all do
the same thing: find the exact result as a quotient of two natural numbers, in
units, and take the finite datum nearest to it.  `ofQuotient` is that one step.

## Why one rounding suffices

Between two powers of two the magnitudes are evenly spaced.  `spacing` is the
logarithm of that space around the quotient; dividing by it and rounding to a whole
number gives the place of the result within its stretch, and adding the places of all
the shorter stretches gives its rank.  The stretches overlap at their ends, so a
rounding that carries into the next power of two already has the right rank, and one
that carries past the last finite rank is the overflow.
-/

namespace Reckon

/-- The whole number nearest to a quotient; of two equally near, the even one. -/
def roundDiv (num den : Nat) : Nat :=
  if 2 * (num % den) < den then num / den
  else if den < 2 * (num % den) then num / den + 1
  else num / den + num / den % 2

/-- The nearest whole number is at most half a unit below the quotient. -/
theorem two_mul_le_roundDiv {num den : Nat} (h : 0 < den) :
    2 * num ≤ 2 * (den * roundDiv num den) + den := by
  have := Nat.div_add_mod num den
  have := Nat.mod_lt num h
  unfold roundDiv
  split
  · omega
  · split <;> rw [Nat.mul_add] <;> omega

/-- The nearest whole number is at most half a unit above the quotient. -/
theorem two_mul_roundDiv_le {num den : Nat} (h : 0 < den) :
    2 * (den * roundDiv num den) ≤ 2 * num + den := by
  have := Nat.div_add_mod num den
  have := Nat.mod_lt num h
  unfold roundDiv
  split
  · omega
  · split <;> rw [Nat.mul_add]
    · omega
    · rcases Nat.mod_two_eq_zero_or_one (num / den) with even | odd
      · rw [even]; omega
      · rw [odd]; omega

namespace Binary64

/-- The logarithm of the space between magnitudes near a quotient of units. -/
def spacing (num den : Nat) : Nat := (num / den).log2 - 52

/-- The rank nearest to a quotient of units, without regard to overflow. -/
def nearestRank (num den : Nat) : Nat :=
  spacing num den * binade + roundDiv num (den * twoTo (spacing num den))

/-- The datum nearest to a quotient of units, with a sign.  A magnitude that rounds
past the last finite one is infinite. -/
def ofQuotient (negative : Bool) (num den : Nat) : Binary64 :=
  if h : nearestRank num den < infinityRank then finite negative ⟨nearestRank num den, h⟩
  else infinity negative

end Binary64

end Reckon
