import Mathlib.Algebra.Order.Field.Power
import Mathlib.Data.Rat.Cast.Order
import Mathlib.Tactic.Linarith
import Mathlib.Tactic.NormNum
import Mathlib.Tactic.Positivity
import Mathlib.Tactic.Ring
import Reckon.Numeral.Real
import Reckon.Proofs.Binary64.Nearest

/-!
# What a decimal is read as

A decimal and a magnitude are compared as the rational numbers that they stand for,
`Decimal.value` and `Binary64.magnitude`.  A decimal that is nearer to one magnitude than to any
other is read as that magnitude (`Decimal.ofDecimal_eq`).  Where it lies in the middle between two,
the rank that is found is still a function of its value (`Decimal.nearestRank_congr`).  So how a
number is written as a coefficient and an exponent does not matter.

Exponents that are far off are not computed with.  The bounds on them are not for the decimal
itself but for where its first digit stands, and a decimal that is near to a positive magnitude
keeps within them, since all of these lie between `10 ^ (-331)` and `10 ^ 310`.
-/

namespace Reckon

/-! ## Magnitudes -/

namespace Binary64

variable {rank : Nat} {x : ℚ}

/-- What a magnitude is worth. -/
def magnitude (rank : Nat) : ℚ := units rank / unitsPerOne

/-- Whether a number is nearer to a magnitude than to any other: it lies strictly between the middles
to the magnitudes on either side. -/
structure IsNearest (rank : Nat) (x : ℚ) : Prop where
  above : ∀ before, rank = before + 1 → magnitude before + magnitude rank < 2 * x
  below : 2 * x < magnitude rank + magnitude (rank + 1)

/-- Whether no magnitude is nearer to a number than this one: the number is not beyond the middles to
the magnitudes on either side. -/
structure IsWithin (rank : Nat) (x : ℚ) : Prop where
  above : ∀ before, rank = before + 1 → magnitude before + magnitude rank ≤ 2 * x
  below : 2 * x ≤ magnitude rank + magnitude (rank + 1)

theorem cast_unitsPerOne_pos : (0 : ℚ) < unitsPerOne := Nat.cast_pos.2 unitsPerOne_pos

theorem magnitude_zero : magnitude 0 = 0 := by
  rw [magnitude, units_zero, Nat.cast_zero, zero_div]

theorem magnitude_one : magnitude 1 = 1 / unitsPerOne := by
  have least : units 1 = 1 := by decide
  rw [magnitude, least, Nat.cast_one]

/-- Infinity stands where the next magnitude would be, which is a power of two. -/
theorem magnitude_infinityRank : magnitude infinityRank = twoTo 1024 := by
  have whole : units infinityRank = twoTo 1024 * unitsPerOne := by decide +kernel
  rw [magnitude, whole, Nat.cast_mul, mul_div_cancel_right₀ _ cast_unitsPerOne_pos.ne']

/-- How far it is from a magnitude to the next. -/
theorem magnitude_succ (rank : Nat) :
    magnitude (rank + 1) = magnitude rank + gap rank / unitsPerOne := by
  rw [magnitude, magnitude, units_succ, Nat.cast_add, add_div]

theorem magnitude_strictMono : StrictMono magnitude := fun a b h => by
  have less : (units a : ℚ) < units b := Nat.cast_lt.2 (units_strictMono h)
  exact div_lt_div_of_pos_right less cast_unitsPerOne_pos

theorem magnitude_nonneg (rank : Nat) : 0 ≤ magnitude rank :=
  div_nonneg (Nat.cast_nonneg _) cast_unitsPerOne_pos.le

/-- Zero is nearest to the first magnitude. -/
theorem isNearest_zero : IsNearest 0 0 := by
  refine ⟨fun before same => absurd same (Nat.succ_ne_zero before).symm, ?_⟩
  have positive : magnitude 0 < magnitude 1 := magnitude_strictMono Nat.one_pos
  rw [magnitude_zero] at positive ⊢
  linarith

/-- A number that a positive magnitude is nearest to is not below half of the least. -/
theorem IsWithin.magnitude_one_le (h : IsWithin rank x) (positive : rank ≠ 0) :
    magnitude 1 ≤ 2 * x := by
  obtain ⟨before, rfl⟩ := Nat.exists_eq_add_one_of_ne_zero positive
  have above := h.above before rfl
  have least : magnitude 1 ≤ magnitude (before + 1) :=
    magnitude_strictMono.monotone (Nat.le_add_left 1 before)
  have := magnitude_nonneg before
  linarith

/-- A number that a finite magnitude is nearest to is below infinity. -/
theorem IsWithin.lt_twoTo (h : IsWithin rank x) (finite : rank < infinityRank) :
    x < twoTo 1024 := by
  have below := h.below
  have here : magnitude rank < magnitude infinityRank := magnitude_strictMono finite
  have next : magnitude (rank + 1) ≤ magnitude infinityRank := magnitude_strictMono.monotone finite
  rw [magnitude_infinityRank] at here next
  linarith

end Binary64

/-! ## Decimals -/

namespace Decimal

open Binary64

variable {d : Decimal} {rank : Nat}

/-- The number that a decimal stands for. -/
def value (d : Decimal) : ℚ := d.coefficient * 10 ^ d.exponent

theorem cast_tenTo (n : Nat) : (tenTo n : ℚ) = 10 ^ n := by
  show ((10 ^ n : Nat) : ℚ) = _
  exact_mod_cast rfl

theorem cast_tenTo_pos (n : Nat) : (0 : ℚ) < tenTo n := by
  rw [cast_tenTo]
  positivity

/-- A power of ten as a quotient of two whole ones. -/
theorem ten_zpow (exponent : Int) :
    (10 : ℚ) ^ exponent = tenTo exponent.toNat / tenTo (-exponent).toNat := by
  rw [cast_tenTo, cast_tenTo]
  rcases Int.le_total 0 exponent with nonneg | negative
  · obtain ⟨n, rfl⟩ := Int.eq_ofNat_of_zero_le nonneg
    simp
  · obtain ⟨n, moved⟩ := Int.eq_ofNat_of_zero_le (Int.neg_nonneg_of_nonpos negative)
    obtain rfl : exponent = -(n : Int) := by omega
    simp

/-- Shortening a decimal does not change what it stands for. -/
theorem value_shorten (coefficient : Nat) (exponent : Int) :
    (shorten coefficient exponent).value = (⟨coefficient, exponent⟩ : Decimal).value := by
  obtain ⟨zeros, moved, same⟩ := shorten_value coefficient exponent
  have same' : ((shorten coefficient exponent).coefficient : ℚ) * 10 ^ zeros = coefficient := by
    rw [← cast_tenTo, ← Nat.cast_mul, same]
  rw [value, value, moved, zpow_add₀ (by norm_num), zpow_natCast, ← same']
  ring

/-- Powers of ten may stand in the coefficient or in the exponent. -/
theorem value_tenTo_mul (zeros n : Nat) (exponent : Int) :
    (⟨tenTo zeros * n, exponent⟩ : Decimal).value = (⟨n, exponent + zeros⟩ : Decimal).value := by
  rw [value, value, Nat.cast_mul, cast_tenTo, zpow_add₀ (by norm_num), zpow_natCast]
  ring

theorem value_eq_zero_of_coefficient (h : d.coefficient = 0) : d.value = 0 := by
  rw [value, h, Nat.cast_zero, zero_mul]

/-! ## Where the first digit stands -/

theorem value_lt (d : Decimal) : d.value < 10 ^ (digitCount d.coefficient + d.exponent) := by
  have digits : (d.coefficient : ℚ) < 10 ^ digitCount d.coefficient := by
    rw [← cast_tenTo]
    exact Nat.cast_lt.2 (lt_tenTo_digitCount d.coefficient)
  rw [zpow_add₀ (by norm_num), zpow_natCast, value]
  exact mul_lt_mul_of_pos_right digits (by positivity)

theorem le_value (h : d.coefficient ≠ 0) :
    10 ^ (digitCount d.coefficient + d.exponent) ≤ 10 * d.value := by
  have digits : (10 : ℚ) ^ digitCount d.coefficient ≤ 10 * d.coefficient := by
    rw [← cast_tenTo]
    exact_mod_cast tenTo_digitCount_le h
  rw [zpow_add₀ (by norm_num), zpow_natCast, value, ← mul_assoc]
  exact mul_le_mul_of_nonneg_right digits (by positivity)

/-- A decimal below infinity does not begin too far before the point. -/
theorem digitCount_add_exponent_le (positive : d.coefficient ≠ 0) (h : d.value < twoTo 1024) :
    digitCount d.coefficient + d.exponent ≤ 310 := by
  by_contra far
  have reached := le_value positive
  have power : (10 : ℚ) ^ ((310 : Nat) + 1 : Int) ≤ 10 ^ (digitCount d.coefficient + d.exponent) :=
    zpow_le_zpow_right₀ (by norm_num) (by omega)
  have beyond : twoTo 1024 < tenTo 310 := by decide +kernel
  have beyond' : (twoTo 1024 : ℚ) < tenTo 310 := Nat.cast_lt.2 beyond
  rw [zpow_add_one₀ (by norm_num), zpow_natCast, ← cast_tenTo] at power
  linarith

/-- A decimal not below half of the least magnitude does not begin too far behind the point. -/
theorem le_digitCount_add_exponent (h : magnitude 1 ≤ 2 * d.value) :
    -330 ≤ digitCount d.coefficient + d.exponent := by
  by_contra far
  have short := value_lt d
  have power : (10 : ℚ) ^ (digitCount d.coefficient + d.exponent) ≤ 10 ^ (-(331 : Nat) : Int) :=
    zpow_le_zpow_right₀ (by norm_num) (by omega)
  have below : 2 * unitsPerOne < tenTo 331 := by decide +kernel
  have below' : (2 * unitsPerOne : ℚ) < tenTo 331 := by exact_mod_cast below
  rw [zpow_neg, zpow_natCast, ← cast_tenTo, inv_eq_one_div] at power
  have half : 1 / (unitsPerOne : ℚ) / 2 < 1 / tenTo 331 := by
    rw [← magnitude_one]
    linarith
  rw [div_div, one_div_lt_one_div (by linarith [cast_unitsPerOne_pos]) (cast_tenTo_pos 331)] at half
  linarith

/-! ## Reading -/

/-- A decimal in units, as the quotient that is rounded. -/
theorem value_mul_unitsPerOne (d : Decimal) :
    d.value * unitsPerOne =
      ((d.coefficient * tenTo d.exponent.toNat * unitsPerOne : Nat) : ℚ) /
        (tenTo (-d.exponent).toNat : Nat) := by
  rw [value, ten_zpow, Nat.cast_mul, Nat.cast_mul]
  ring

/-- A decimal compared with the middle between two magnitudes, in whole numbers. -/
theorem le_magnitudes_iff {a b : Nat} :
    2 * d.value ≤ magnitude a + magnitude b ↔
      2 * (d.coefficient * tenTo d.exponent.toNat * unitsPerOne) ≤
        tenTo (-d.exponent).toNat * (units a + units b) := by
  rw [magnitude, magnitude, ← add_div, le_div_iff₀ cast_unitsPerOne_pos, mul_assoc,
    value_mul_unitsPerOne, ← mul_div_assoc, div_le_iff₀ (cast_tenTo_pos _), mul_comm (_ + _)]
  generalize d.coefficient * tenTo d.exponent.toNat * unitsPerOne = num
  exact_mod_cast Iff.rfl

theorem magnitudes_le_iff {a b : Nat} :
    magnitude a + magnitude b ≤ 2 * d.value ↔
      tenTo (-d.exponent).toNat * (units a + units b) ≤
        2 * (d.coefficient * tenTo d.exponent.toNat * unitsPerOne) := by
  rw [magnitude, magnitude, ← add_div, div_le_iff₀ cast_unitsPerOne_pos, mul_assoc,
    value_mul_unitsPerOne, ← mul_div_assoc, le_div_iff₀ (cast_tenTo_pos _), mul_comm (_ + _)]
  generalize d.coefficient * tenTo d.exponent.toNat * unitsPerOne = num
  exact_mod_cast Iff.rfl

/-- The rank that is found for a decimal is that of the nearest magnitude. -/
theorem nearestRank_eq (h : IsNearest rank d.value) : d.nearestRank = rank :=
  Binary64.nearestRank_eq (Nat.pow_pos (by decide))
    (fun before same => (lt_iff_lt_of_le_iff_le le_magnitudes_iff).1 (h.above before same))
    ((lt_iff_lt_of_le_iff_le magnitudes_le_iff).1 h.below)

/-- No magnitude is nearer to a decimal than that of the rank that is found. -/
theorem isWithin_nearestRank (d : Decimal) : IsWithin d.nearestRank d.value := by
  have between := Binary64.nearestRank_between (d.coefficient * tenTo d.exponent.toNat * unitsPerOne)
    (Nat.pow_pos (by decide) : 0 < tenTo (-d.exponent).toNat)
  refine ⟨fun before same => magnitudes_le_iff.2 ?_, le_magnitudes_iff.2 between.1⟩
  rw [same]
  exact between.2 before same

/-- **A decimal is read as the nearest magnitude**, also where its exponent is too far off to be
computed with. -/
theorem ofDecimal_of_nearestRank (negative : Bool) (d : Decimal)
    (finite : d.nearestRank < infinityRank) :
    ofDecimal negative d.coefficient d.exponent = .finite negative ⟨d.nearestRank, finite⟩ := by
  have within := isWithin_nearestRank d
  unfold ofDecimal
  split
  · next none =>
    obtain same : d.nearestRank = 0 := by
      by_contra positive
      have above := within.magnitude_one_le positive
      have least : magnitude 0 < magnitude 1 := magnitude_strictMono Nat.one_pos
      rw [magnitude_zero] at least
      rw [value_eq_zero_of_coefficient none] at above
      linarith
    simp only [same]
    rfl
  · next some_digit =>
    have near := digitCount_add_exponent_le some_digit (within.lt_twoTo finite)
    rw [if_neg (Int.not_lt.2 near)]
    split
    · next far =>
      obtain same : d.nearestRank = 0 := by
        by_contra positive
        exact Int.not_le.2 far (le_digitCount_add_exponent (within.magnitude_one_le positive))
      simp only [same]
      rfl
    · rw [ofQuotient]
      exact dif_pos finite

/-- A decimal that is nearer to a finite magnitude than to any other is read as that one. -/
theorem ofDecimal_eq (negative : Bool) (finite : rank < infinityRank)
    (h : IsNearest rank d.value) :
    ofDecimal negative d.coefficient d.exponent = .finite negative ⟨rank, finite⟩ := by
  obtain rfl := nearestRank_eq h
  exact ofDecimal_of_nearestRank negative d finite

end Decimal

end Reckon
