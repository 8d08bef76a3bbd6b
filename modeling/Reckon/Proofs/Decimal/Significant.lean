import Mathlib.Tactic.FieldSimp
import Reckon.Decimal.Significant
import Reckon.Proofs.Decimal.Reading

/-!
# Seventeen significant digits

The decimals with a given number of significant digits and the same leading place are a grid, and
rounding a magnitude to it is off by half a step at most (`abs_roundDiv_sub_le`).  A magnitude is
less than `2 ^ 53` times as far from zero as from the one before it, and the step of a grid of
seventeen digits is at most `10 ^ (-16)` times the number that is rounded.  Since `2 ^ 53` is less
than `10 ^ 16`, half a step is less than half of the way to either neighbour: seventeen digits, or
more, tell a magnitude from all others (`isNearest_significant`).
-/

namespace Reckon

namespace Binary64

/-- A number that is off by less than half of the way down to the magnitude before is still nearest,
since the way up to the next is no shorter. -/
theorem isNearest_of_abs_lt {rank : Nat} {x : ℚ}
    (h : 2 * |x - magnitude (rank + 1)| < gap rank / unitsPerOne) : IsNearest (rank + 1) x := by
  have wider : (gap rank : ℚ) / unitsPerOne ≤ gap (rank + 1) / unitsPerOne :=
    div_le_div_of_nonneg_right (Nat.cast_le.2 (gap_mono (Nat.le_succ rank)))
      cast_unitsPerOne_pos.le
  have before := magnitude_succ rank
  have behind := magnitude_succ (rank + 1)
  have most := le_abs_self (x - magnitude (rank + 1))
  have least := neg_abs_le (x - magnitude (rank + 1))
  constructor
  · rintro below same
    obtain rfl := Nat.succ.inj same
    linarith
  · linarith

end Binary64

namespace Decimal

open Binary64

variable {rank count num den : Nat}

/-- The leading digit of a quotient does not stand above it. -/
theorem zpow_leadingExponent_le (hnum : 0 < num) (hden : 0 < den) :
    (10 : ℚ) ^ leadingExponent num den ≤ num / den := by
  have hden' : (0 : ℚ) < den := Nat.cast_pos.2 hden
  unfold leadingExponent
  split
  · next at_least_one =>
    have positive : num / den ≠ 0 := (Nat.div_pos at_least_one hden).ne'
    have digits : (10 : ℚ) ^ digitCount (num / den) ≤ 10 * (num / den : Nat) := by
      rw [← cast_tenTo]
      exact_mod_cast tenTo_digitCount_le positive
    have whole : ((num / den : Nat) : ℚ) ≤ num / den := by
      rw [le_div_iff₀ hden']
      exact_mod_cast Nat.div_mul_le_self num den
    rw [zpow_sub_one₀ (by norm_num), zpow_natCast]
    linarith
  · have digits : (den - 1) / num < tenTo (digitCount ((den - 1) / num)) := lt_tenTo_digitCount _
    rw [Nat.div_lt_iff_lt_mul hnum] at digits
    have digits' : (den : ℚ) ≤ 10 ^ digitCount ((den - 1) / num) * num := by
      rw [← cast_tenTo]
      exact_mod_cast Nat.le_of_pred_lt digits
    rw [zpow_neg, zpow_natCast, inv_eq_one_div, div_le_div_iff₀ (by positivity) hden']
    linarith

/-- A point of a grid is at most half a step from the quotient that was rounded to it. -/
theorem abs_roundDiv_sub_le (hden : 0 < den) (exponent : Int) :
    2 * |(⟨roundDiv (inMultiplesOf exponent num den).1 (inMultiplesOf exponent num den).2,
      exponent⟩ : Decimal).value - num / den| ≤ 10 ^ exponent := by
  have step : 0 < den * tenTo exponent.toNat := Nat.mul_pos hden (Nat.pow_pos (by decide))
  have near := @two_mul_le_roundDiv (num * tenTo (-exponent).toNat) _ step
  have near' := @two_mul_roundDiv_le (num * tenTo (-exponent).toNat) _ step
  have hden' : (0 : ℚ) < den := Nat.cast_pos.2 hden
  have hbelow := cast_tenTo_pos (-exponent).toNat
  rw [inMultiplesOf, value, ten_zpow]
  dsimp only
  generalize roundDiv (num * tenTo (-exponent).toNat) (den * tenTo exponent.toNat) = rounded
    at near near' ⊢
  generalize tenTo exponent.toNat = above at near near' ⊢
  generalize tenTo (-exponent).toNat = below at near near' hbelow ⊢
  rw [← @Nat.cast_le ℚ] at near near'
  push_cast at near near'
  -- over the common denominator this is what is known of the rounding
  have difference : (rounded : ℚ) * (above / below) - num / den =
      (den * above * rounded - num * below) / (below * den) := by
    field_simp
  have half : |(den * above * rounded - num * below : ℚ)| ≤ den * above / 2 :=
    abs_le.2 ⟨by linarith, by linarith⟩
  have unit : (above / below : ℚ) = 2 * (den * above / 2 / (below * den)) := by
    field_simp
  rw [difference, abs_div, abs_of_pos (mul_pos hbelow hden'), unit]
  exact mul_le_mul_of_nonneg_left
    (div_le_div_of_nonneg_right half (mul_pos hbelow hden').le) (by norm_num)

/-- A step of the grid of seventeen digits is less than the distance between magnitudes. -/
theorem zpow_lt_gap (rank : Nat) :
    (10 : ℚ) ^ (leadingExponent (units (rank + 1)) unitsPerOne - 16) < gap rank / unitsPerOne := by
  have positive : 0 < units (rank + 1) := units_strictMono (Nat.succ_pos rank)
  have leading := zpow_leadingExponent_le positive unitsPerOne_pos
  have multiple : (units (rank + 1) : ℚ) / unitsPerOne ≤
      2 * binade * (gap rank / unitsPerOne) := by
    rw [mul_div_assoc']
    refine div_le_div_of_nonneg_right ?_ cast_unitsPerOne_pos.le
    exact_mod_cast units_succ_le rank
  have distance : (0 : ℚ) < gap rank / unitsPerOne :=
    div_pos (Nat.cast_pos.2 (gap_pos rank)) cast_unitsPerOne_pos
  have coarse : (2 * (binade : Nat) : ℚ) < 10 ^ (16 : Int) := by norm_num
  rw [zpow_sub₀ (by norm_num), div_lt_iff₀ (by norm_num)]
  calc (10 : ℚ) ^ leadingExponent (units (rank + 1)) unitsPerOne
      ≤ units (rank + 1) / unitsPerOne := leading
    _ ≤ 2 * binade * (gap rank / unitsPerOne) := multiple
    _ < 10 ^ (16 : Int) * (gap rank / unitsPerOne) := mul_lt_mul_of_pos_right coarse distance
    _ = gap rank / unitsPerOne * 10 ^ (16 : Int) := mul_comm _ _

/-- The point next to a magnitude on a grid of seventeen digits, or on a finer one, tells it from all
others. -/
theorem isNearest_roundDiv {exponent : Int}
    (fine : exponent ≤ leadingExponent (units (rank + 1)) unitsPerOne - 16) :
    IsNearest (rank + 1)
      (⟨roundDiv (inMultiplesOf exponent (units (rank + 1)) unitsPerOne).1
        (inMultiplesOf exponent (units (rank + 1)) unitsPerOne).2, exponent⟩ : Decimal).value := by
  refine isNearest_of_abs_lt (lt_of_le_of_lt ?_ (zpow_lt_gap rank))
  refine (abs_roundDiv_sub_le unitsPerOne_pos _).trans ?_
  exact zpow_le_zpow_right₀ (by norm_num) fine

/-- **Seventeen significant digits** tell a positive magnitude from all others. -/
theorem isNearest_significant (enough : 17 ≤ count) (positive : rank ≠ 0) :
    IsNearest rank (significant rank count).value := by
  obtain ⟨before, rfl⟩ := Nat.exists_eq_add_one_of_ne_zero positive
  have digits : 17 ≤ min count exactDigits := Nat.le_min.2 ⟨enough, by decide⟩
  rw [significant]
  dsimp only
  rw [value_shorten]
  exact isNearest_roundDiv (by omega)

end Decimal

end Reckon
