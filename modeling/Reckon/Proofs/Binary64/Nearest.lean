import Mathlib.Order.Monotone.Basic
import Reckon.Binary64.Rounding

/-!
# The nearest magnitude

`nearestRank` finds a rank by rounding a quotient on the stretch of evenly spaced magnitudes that
it lies on.  What the rank has to do with the magnitudes beside it is said here: the quotient is
never beyond the middle between the magnitude found and the next one on either side
(`nearestRank_between`).  Magnitudes increase with their ranks, so a quotient that lies strictly
between the two middles around a magnitude is rounded to it and to nothing else
(`nearestRank_eq`).

All of this is read off one formula.  Up to both of its ends, `k` steps along the stretch of
spacing `2 ^ s` stands the magnitude of rank `s * binade + k`, which is worth `k * 2 ^ s` units
(`units_place`).  The two ends matter: a quotient just below a power of two may be rounded up to
it, and the magnitudes below a power of two are closer than those above it.
-/

namespace Reckon

variable {num den k : Nat}

/-- A quotient that reaches a whole number is rounded to it or above it. -/
theorem le_roundDiv (h : 0 < den) (reached : k * den ≤ num) : k ≤ roundDiv num den := by
  by_contra short
  have less : (roundDiv num den + 1) * den ≤ k * den :=
    Nat.mul_le_mul_right den (Nat.not_le.1 short)
  have near := @two_mul_le_roundDiv num den h
  rw [Nat.succ_mul, Nat.mul_comm] at less
  omega

/-- A quotient that does not pass a whole number is rounded to it or below it. -/
theorem roundDiv_le (h : 0 < den) (short : num ≤ k * den) : roundDiv num den ≤ k := by
  by_contra passed
  have more : (k + 1) * den ≤ roundDiv num den * den :=
    Nat.mul_le_mul_right den (Nat.not_le.1 passed)
  have near := @two_mul_roundDiv_le num den h
  rw [Nat.succ_mul, Nat.mul_comm (roundDiv num den)] at more
  omega

namespace Binary64

/-- How far it is from a magnitude to the next, in units. -/
def gap (rank : Nat) : Nat := twoTo (rank / binade - 1)

/-- What the magnitudes of a stretch are worth. -/
theorem units_place {s k : Nat} (lower : s = 0 ∨ binade ≤ k) (upper : k ≤ 2 * binade) :
    units (s * binade + k) = k * twoTo s := by
  by_cases subnormal : k < binade
  · obtain rfl : s = 0 := lower.resolve_right (Nat.not_le.2 subnormal)
    rw [Nat.zero_mul, Nat.zero_add, units, if_pos (Nat.div_eq_of_lt subnormal)]
    exact (Nat.mul_one k).symm
  obtain ⟨j, rfl⟩ := Nat.exists_eq_add_of_le (Nat.not_lt.1 subnormal)
  rw [← Nat.add_assoc, ← Nat.succ_mul]
  by_cases within : j < binade
  · have field : ((s + 1) * binade + j) / binade = s + 1 := by
      rw [Nat.mul_comm, Nat.mul_add_div (by decide), Nat.div_eq_of_lt within, Nat.add_zero]
    have place : ((s + 1) * binade + j) % binade = j := by
      rw [Nat.mul_comm, Nat.mul_add_mod, Nat.mod_eq_of_lt within]
    rw [units, field, place, if_neg (Nat.succ_ne_zero s), Nat.add_sub_cancel]
  · obtain rfl : j = binade := by omega
    rw [← Nat.succ_mul]
    have field : (s + 1 + 1) * binade / binade = s + 1 + 1 := Nat.mul_div_cancel _ (by decide)
    have place : (s + 1 + 1) * binade % binade = 0 := Nat.mul_mod_left _ _
    rw [units, field, place, if_neg (Nat.succ_ne_zero _), Nat.add_zero, Nat.add_sub_cancel]
    show binade * 2 ^ (s + 1) = (binade + binade) * 2 ^ s
    rw [Nat.pow_succ', ← Nat.mul_assoc, Nat.mul_two]

/-- The next magnitude is at least one step of the stretch away. -/
theorem le_gap {s k : Nat} (lower : s = 0 ∨ binade ≤ k) : twoTo s ≤ gap (s * binade + k) := by
  refine Nat.pow_le_pow_right (by decide) ?_
  rcases lower with rfl | lower
  · exact Nat.zero_le _
  · rw [Nat.mul_comm, Nat.mul_add_div (by decide)]
    have := Nat.div_pos lower (by decide)
    omega

/-- Every rank has a place on a stretch, and is not at its upper end. -/
theorem exists_place (rank : Nat) :
    ∃ s k, rank = s * binade + k ∧ (s = 0 ∨ binade ≤ k) ∧ k < 2 * binade ∧
      gap rank = twoTo s := by
  have split := Nat.div_add_mod rank binade
  have within : rank % binade < binade := Nat.mod_lt _ (by decide)
  unfold gap
  generalize rank / binade = field at split ⊢
  generalize rank % binade = place at split within
  cases field with
  | zero => exact ⟨0, place, by omega, .inl rfl, by omega, rfl⟩
  | succ s =>
    refine ⟨s, binade + place, ?_, .inr (Nat.le_add_right _ _), by omega, rfl⟩
    rw [← split, Nat.mul_comm, Nat.succ_mul, Nat.add_assoc]

theorem units_succ (rank : Nat) : units (rank + 1) = units rank + gap rank := by
  obtain ⟨s, k, rfl, lower, upper, distance⟩ := exists_place rank
  rw [distance, Nat.add_assoc, units_place (by omega) upper, units_place lower (by omega),
    Nat.succ_mul]

theorem gap_pos (rank : Nat) : 0 < gap rank := Nat.pow_pos (by decide)

theorem gap_mono {a b : Nat} (h : a ≤ b) : gap a ≤ gap b :=
  Nat.pow_le_pow_right (by decide) (Nat.sub_le_sub_right (Nat.div_le_div_right h) 1)

theorem units_strictMono : StrictMono units :=
  strictMono_nat_of_lt_succ fun rank => by
    have := gap_pos rank
    rw [units_succ]
    omega

@[simp] theorem units_zero : units 0 = 0 := rfl

theorem unitsPerOne_pos : 0 < unitsPerOne := by decide +kernel

/-- A magnitude is at most so many times as far from zero as from the magnitude before it. -/
theorem units_succ_le (rank : Nat) : units (rank + 1) ≤ 2 * binade * gap rank := by
  obtain ⟨s, k, rfl, lower, upper, distance⟩ := exists_place rank
  rw [distance, Nat.add_assoc, units_place (by omega) upper]
  exact Nat.mul_le_mul_right _ upper

/-! ## The rank found -/

/-- A quotient that is not on the first stretch has come to the stretch of its spacing. -/
theorem le_of_spacing (h : spacing num den ≠ 0) :
    binade * (den * twoTo (spacing num den)) ≤ num := by
  have positive : num / den ≠ 0 := by
    intro none
    rw [spacing, none] at h
    exact h rfl
  have reached : 2 ^ (num / den).log2 ≤ num / den := Nat.log2_self_le positive
  have parts : (num / den).log2 = 52 + spacing num den := by
    rw [spacing] at h ⊢
    omega
  rw [parts, Nat.pow_add] at reached
  calc binade * (den * twoTo (spacing num den))
      = 2 ^ 52 * 2 ^ spacing num den * den := by
        rw [Nat.mul_comm den, ← Nat.mul_assoc]
        rfl
    _ ≤ num / den * den := Nat.mul_le_mul_right den reached
    _ ≤ num := Nat.div_mul_le_self num den

/-- A quotient is below the end of the stretch of its spacing. -/
theorem lt_of_spacing (h : 0 < den) :
    num < 2 * binade * (den * twoTo (spacing num den)) := by
  have short : num / den < 2 ^ ((num / den).log2 + 1) := Nat.lt_log2_self
  have within : 2 ^ ((num / den).log2 + 1) ≤ 2 ^ (53 + spacing num den) :=
    Nat.pow_le_pow_right (by decide) (by rw [spacing]; omega)
  have reached : num / den < 2 ^ 53 * 2 ^ spacing num den := by
    rw [← Nat.pow_add]
    exact Nat.lt_of_lt_of_le short within
  calc num < 2 ^ 53 * 2 ^ spacing num den * den := (Nat.div_lt_iff_lt_mul h).1 reached
    _ = 2 * binade * (den * twoTo (spacing num den)) := by
      rw [Nat.mul_comm den, ← Nat.mul_assoc]
      rfl

/-- The rank found has its place on the stretch of the spacing, as near to the quotient as any
place there is.  Only the first stretch has places before its lower end. -/
theorem exists_nearestRank (num : Nat) (h : 0 < den) :
    ∃ s k, nearestRank num den = s * binade + k ∧ k ≤ 2 * binade ∧
      (s = 0 ∨ binade ≤ k ∧ binade * (den * twoTo s) ≤ num) ∧
      2 * num ≤ 2 * (den * twoTo s * k) + den * twoTo s ∧
      2 * (den * twoTo s * k) ≤ 2 * num + den * twoTo s := by
  have positive : 0 < den * twoTo (spacing num den) := Nat.mul_pos h (Nat.pow_pos (by decide))
  refine ⟨spacing num den, roundDiv num (den * twoTo (spacing num den)), rfl,
    roundDiv_le positive (Nat.le_of_lt (lt_of_spacing h)), ?_, two_mul_le_roundDiv positive,
    two_mul_roundDiv_le positive⟩
  by_cases first : spacing num den = 0
  · exact .inl first
  · exact .inr ⟨le_roundDiv positive (le_of_spacing first), le_of_spacing first⟩

/-- **The rank found is a nearest one.**  The quotient is not beyond the middles between its
magnitude and those of the ranks beside it. -/
theorem nearestRank_between (num : Nat) (h : 0 < den) :
    2 * num ≤ den * (units (nearestRank num den) + units (nearestRank num den + 1)) ∧
      ∀ rank, nearestRank num den = rank + 1 → den * (units rank + units (rank + 1)) ≤ 2 * num := by
  obtain ⟨s, k, found, upper, begins, near, near'⟩ := exists_nearestRank num h
  have worth : units (s * binade + k) = k * twoTo s := units_place (begins.imp_right And.left) upper
  have steps : den * twoTo s * k = den * (k * twoTo s) := by rw [Nat.mul_assoc, Nat.mul_comm k]
  rw [steps, ← worth] at near near'
  rw [found]
  constructor
  · have step := Nat.mul_le_mul_left den (le_gap (begins.imp_right And.left))
    rw [units_succ, Nat.mul_add, Nat.mul_add]
    omega
  · intro rank same
    have next := units_succ rank
    by_cases start : s = 0 ∨ binade < k
    · have some_step : 0 < k := by
        rcases start with rfl | passed
        · omega
        · exact Nat.zero_lt_of_lt passed
      have place : rank = s * binade + (k - 1) := by omega
      have step := Nat.mul_le_mul_left den
        (le_gap (s := s) (k := k - 1) (start.imp_right Nat.le_sub_one_of_lt))
      rw [← place] at step
      rw [same, next, Nat.mul_add] at near'
      rw [next, Nat.mul_add, Nat.mul_add]
      omega
    · -- the quotient is at or above the power of two that it was rounded to
      obtain ⟨later, not_above⟩ := not_or.1 start
      obtain ⟨lower, reached⟩ := begins.resolve_left later
      have power : den * units (rank + 1) ≤ num := by
        rw [← same, worth, Nat.le_antisymm (Nat.not_lt.1 not_above) lower, Nat.mul_left_comm]
        exact reached
      rw [next, Nat.mul_add] at power
      rw [next, Nat.mul_add, Nat.mul_add]
      omega

/-- **A quotient strictly between two middles** is rounded to the magnitude between them.  Below zero
there is nothing to come near to. -/
theorem nearestRank_eq {rank : Nat} (h : 0 < den)
    (above : ∀ before, rank = before + 1 → den * (units before + units rank) < 2 * num)
    (below : 2 * num < den * (units rank + units (rank + 1))) : nearestRank num den = rank := by
  obtain ⟨upper, lower⟩ := nearestRank_between num h
  have middles {a b : Nat} (order : a ≤ b) :
      den * (units a + units (a + 1)) ≤ den * (units b + units (b + 1)) :=
    Nat.mul_le_mul_left den (Nat.add_le_add (units_strictMono.monotone order)
      (units_strictMono.monotone (Nat.succ_le_succ order)))
  rcases Nat.lt_trichotomy (nearestRank num den) rank with less | same | greater
  · obtain ⟨before, rfl⟩ := Nat.exists_eq_add_one_of_ne_zero (Nat.ne_zero_of_lt less)
    have := middles (Nat.le_of_lt_succ less)
    have := above before rfl
    omega
  · exact same
  · obtain ⟨between, found⟩ := Nat.exists_eq_add_of_lt greater
    have := middles (Nat.le_add_right rank between)
    have := lower (rank + between) found
    omega

end Binary64

end Reckon
