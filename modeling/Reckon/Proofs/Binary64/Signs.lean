import Mathlib.Algebra.Ring.Int.Parity
import Reckon.Binary64.Guarded
import Reckon.Proofs.Binary64.Nearest

/-!
# The signs of quotients and powers

The tables of `div` and `power` settle the sign of a result before its magnitude is looked at, and
rounding does not look at signs (`ofQuotient_not`).  So a quotient changes its sign with either
operand, whatever the kinds of the operands are.

## Powers with whole exponents

The sign of a power to a whole exponent is that of the base, if the exponent is odd, and otherwise
there is none.  That the table of `power` keeps to this has one hindrance: every power of one is
one by rule, while a power of minus one is computed.  It does come to one, because the logarithm
of one is found without an error (`Power.ofFinite_one`).  So the rule for one may be left out where
the exponent is whole (`power_finite`), and then the base enters by its sign and its magnitude
alone.

Whether an exponent is odd is found as the remainder of its units by those of two.  `IsWhole` says
which integer an exponent is, and `isOddInteger_iff` that the remainder is right about it.
-/

namespace Reckon

namespace Binary64

/-! ## Quotients -/

/-- Rounding does not look at the sign. -/
theorem ofQuotient_not (negative : Bool) (num den : Nat) :
    ofQuotient (!negative) num den = -ofQuotient negative num den := by
  unfold ofQuotient
  split <;> rfl

protected theorem neg_div (a b : Binary64) : -a / b = -(a / b) := by
  change div (-a) b = -div a b
  cases a <;> cases b
  case finite.finite s a t b =>
    rw [neg_finite, div, div, Bool.not_xor]
    split_ifs
    · rfl
    · rfl
    · exact ofQuotient_not _ _ _
  all_goals simp [div, zero]

/-- It makes no difference on which side of a quotient a sign stands. -/
protected theorem div_neg (a b : Binary64) : a / -b = -(a / b) := by
  have moved : div a (-b) = div (-a) b := by
    cases a <;> cases b <;>
      simp only [div, neg_nan, neg_infinity, neg_finite, Bool.not_xor, Bool.xor_not]
  exact moved.trans (Binary64.neg_div a b)

/-! ## Whole numbers -/

/-- Whether a datum is the finite one whose value is an integer. -/
def IsWhole : Binary64 → Int → Prop
  | finite negative rank, k => signedUnits negative rank = k * unitsPerOne
  | _, _ => False

theorem natAbs_signedUnits (negative : Bool) (rank : Nat) :
    (signedUnits negative rank).natAbs = units rank := by
  cases negative <;> simp [signedUnits]

theorem units_of_isWhole {negative : Bool} {rank : Fin infinityRank} {k : Int}
    (h : IsWhole (finite negative rank) k) : units rank = k.natAbs * unitsPerOne := by
  have whole : signedUnits negative rank = k * unitsPerOne := h
  rw [← natAbs_signedUnits negative, whole, Int.natAbs_mul, Int.natAbs_natCast]

/-- The whole numbers are those that `isInteger` tells. -/
theorem isInteger_iff {n : Binary64} : n.isInteger = true ↔ ∃ k, n.IsWhole k := by
  cases n with
  | nan => simp [isInteger, IsWhole]
  | infinity negative => simp [isInteger, IsWhole]
  | finite negative rank =>
    rw [isInteger, beq_iff_eq, ← Nat.dvd_iff_mod_eq_zero, ← natAbs_signedUnits negative,
      ← Int.natCast_dvd]
    exact ⟨fun ⟨k, hk⟩ => ⟨k, hk.trans (Int.mul_comm ..)⟩,
      fun ⟨k, hk⟩ => ⟨k, Eq.trans hk (Int.mul_comm ..)⟩⟩

/-- The odd ones are those that `isOddInteger` tells. -/
theorem isOddInteger_iff {n : Binary64} {k : Int} (h : n.IsWhole k) :
    n.isOddInteger = true ↔ Odd k := by
  cases n with
  | nan => exact h.elim
  | infinity negative => exact h.elim
  | finite negative rank =>
    rw [isOddInteger, beq_iff_eq, units_of_isWhole h, Nat.mul_mod_mul_right,
      Nat.mul_eq_right unitsPerOne_pos.ne', ← Nat.odd_iff, Int.natAbs_odd]

/-! ## Powers of one -/

namespace Power

/-- Where no bit of the fraction is set, no root is chosen. -/
theorem chosenProduct_zero (place : Nat) (roots : List Nat) (product : Nat) :
    chosenProduct 0 place roots product = product := by
  induction roots generalizing place with
  | nil => cases place <;> rfl
  | cons root rest ih =>
    cases place with
    | zero => rfl
    | succ place =>
      rw [chosenProduct, Nat.zero_testBit, if_neg Bool.false_ne_true]
      exact ih place

theorem exponential_zero (negative : Bool) : exponential negative 0 = signedOne negative := by
  have leading : roundDiv (twoTo rootBits) (twoTo (rootBits - 199)) = twoTo 199 := by
    decide +kernel
  unfold exponential
  rw [Int.zero_ediv, Int.zero_emod, if_neg (by decide), if_neg (by decide)]
  dsimp only
  rw [Int.toNat_zero, chosenProduct_zero, leading]
  cases negative <;> decide +kernel

/-- The logarithm of one is exact. -/
theorem logarithm_one : logarithm (units rankOfOne) = 0 := by
  decide +kernel

/-- Every power of one is one. -/
theorem ofFinite_one (negative exponentNegative : Bool) (exponent : Nat) :
    ofFinite negative rankOfOne exponentNegative exponent = signedOne negative := by
  rw [ofFinite, logarithm_one, Int.mul_zero, Int.zero_ediv, exponential_zero]

theorem exponential_not (negative : Bool) (power : Int) :
    exponential (!negative) power = -exponential negative power := by
  unfold exponential
  dsimp only
  split_ifs
  · rfl
  · rfl
  · exact ofQuotient_not _ _ _

theorem ofFinite_not (negative : Bool) (base : Nat) (exponentNegative : Bool) (exponent : Nat) :
    ofFinite (!negative) base exponentNegative exponent =
      -ofFinite negative base exponentNegative exponent :=
  exponential_not _ _

end Power

/-! ## Powers with whole exponents -/

/-- The power of a magnitude to a finite exponent other than zero, with a sign. -/
def signedPower (negative : Bool) (base : Fin infinityRank) (exponentNegative : Bool)
    (exponent : Nat) : Binary64 :=
  if base.val = 0 then if exponentNegative then infinity negative else zero negative
  else Power.ofFinite negative base exponentNegative exponent

theorem signedPower_not (negative : Bool) (base : Fin infinityRank) (exponentNegative : Bool)
    (exponent : Nat) :
    signedPower (!negative) base exponentNegative exponent =
      -signedPower negative base exponentNegative exponent := by
  unfold signedPower
  split_ifs
  · rfl
  · rfl
  · exact Power.ofFinite_not _ _ _ _

theorem power_of_isZero {n : Binary64} (h : n.isZero = true) (x : Binary64) : power x n = one := by
  unfold power
  rw [h, Bool.true_or, if_pos rfl]

theorem power_infinity {s t : Bool} {b : Fin infinityRank}
    (nonzero : (finite t b).isZero = false) :
    power (infinity s) (finite t b) =
      if t then zero (s && (finite t b).isOddInteger)
      else infinity (s && (finite t b).isOddInteger) := by
  cases t <;> simp [power, nonzero, one, isNegative]

/-- For whole exponents no rule for a base of one is needed. -/
theorem power_finite {s t : Bool} {a b : Fin infinityRank}
    (nonzero : (finite t b).isZero = false) (whole : (finite t b).isInteger = true) :
    power (finite s a) (finite t b) = signedPower (s && (finite t b).isOddInteger) a t b := by
  by_cases unit : finite s a = one
  · obtain ⟨rfl, rfl⟩ := (finite.injEq ..).mp unit
    have ne_zero : rankOfOne ≠ 0 := by decide
    rw [power, if_pos (by simp [unit]), signedPower, if_neg ne_zero, Power.ofFinite_one]
    rfl
  · rw [power, if_neg (by simp [nonzero, unit])]
    simp [signedPower, isNegative, whole]

theorem isOddInteger_of_isZero {n : Binary64} (h : n.isZero = true) :
    n.isOddInteger = false := by
  cases n with
  | nan => rfl
  | infinity negative => rfl
  | finite negative rank =>
    have vanishes : rank.val = 0 := by simpa [isZero] using h
    rw [isOddInteger, vanishes]
    decide +kernel

/-- An odd exponent takes over the sign of the base, and an even one does not. -/
theorem power_neg {x n : Binary64} (number : x ≠ nan) (whole : n.isInteger = true) :
    power (-x) n = if n.isOddInteger then -power x n else power x n := by
  cases isZero : n.isZero with
  | true =>
    rw [power_of_isZero isZero, power_of_isZero isZero, isOddInteger_of_isZero isZero,
      if_neg Bool.false_ne_true]
  | false =>
    match n, x with
    | nan, _ => exact absurd whole Bool.false_ne_true
    | infinity _, _ => exact absurd whole Bool.false_ne_true
    | finite _ _, nan => exact absurd rfl number
    | finite t b, infinity s =>
      rw [neg_infinity, power_infinity isZero, power_infinity isZero]
      cases (finite t b).isOddInteger <;> cases t <;> simp [zero]
    | finite t b, finite s a =>
      rw [neg_finite, power_finite isZero whole, power_finite isZero whole]
      cases (finite t b).isOddInteger with
      | true => rw [Bool.and_true, Bool.and_true, signedPower_not, if_pos rfl]
      | false => rw [Bool.and_false, Bool.and_false, if_neg Bool.false_ne_true]

/-- **The laws of signs.**  A quotient changes its sign with either operand.  A power to a whole
exponent changes its sign with the base if the exponent is odd, and does not if it is even. -/
theorem guarded_neg :
    (∀ a b : Binary64, ∃ quotient, guardedDiv a b = .ok quotient ∧
      guardedDiv (-a) b = .ok (-quotient) ∧ guardedDiv a (-b) = .ok (-quotient)) ∧
    ∀ (x n : Binary64) (k : Int), x ≠ nan → n.IsWhole k →
      ∃ result, guardedPower x n = .ok result ∧
        (Even k → guardedPower (-x) n = .ok result) ∧
        (Odd k → guardedPower (-x) n = .ok (-result)) := by
  constructor
  · intro a b
    refine ⟨a / b, guardedDiv_eq a b, ?_, ?_⟩
    · rw [guardedDiv_eq, Binary64.neg_div]
    · rw [guardedDiv_eq, Binary64.div_neg]
  · intro x n k number whole
    have signs := power_neg number (isInteger_iff.2 ⟨k, whole⟩)
    refine ⟨power x n, guardedPower_eq x n, fun even => ?_, fun odd => ?_⟩
    · have notOdd : ¬ n.isOddInteger = true := by
        rw [isOddInteger_iff whole, Int.not_odd_iff_even]
        exact even
      rw [guardedPower_eq, signs, if_neg notOdd]
    · rw [guardedPower_eq, signs, if_pos ((isOddInteger_iff whole).2 odd)]

/-- The number minus three. -/
def minusThree : Binary64 := finite true ⟨1024 * binade + binade / 2, by decide⟩

/-- The zeros to an odd negative exponent are the infinities of their signs. -/
theorem guarded_neg_minusThree :
    zero false ≠ nan ∧ minusThree.IsWhole (-3) ∧
      guardedPower (zero false) minusThree = .ok (infinity false) ∧
      guardedPower (-zero false) minusThree = .ok (-infinity false) := by
  have number : zero false ≠ nan := by simp [zero]
  have whole : minusThree.IsWhole (-3) := by
    change signedUnits true _ = -3 * (unitsPerOne : Int)
    decide +kernel
  have refused : guardedPower (zero false) minusThree = .ok (infinity false) := by
    decide +kernel
  obtain ⟨result, computed, -, flips⟩ :=
    guarded_neg.2 (zero false) minusThree (-3) number whole
  obtain rfl : result = infinity false := Except.ok.inj (computed.symm.trans refused)
  exact ⟨number, whole, refused, flips (by decide)⟩

end Binary64

end Reckon
