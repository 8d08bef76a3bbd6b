import Reckon.Binary64.Arithmetic
import Reckon.Binary64.Power

/-!
# Division and powers that refuse, and the guards around them

Division and powers come in two strengths.  The strict ones refuse: a zero divides
nothing, a power of finite operands has to be finite, and a power that has no value is no
answer.  The guarded ones are what an expression is computed with.  They ask the strict
ones first where that is allowed, and put an infinity or a NaN in place of every refusal.

The guards are written out as the calculator has them and do not mention the tables of
`div` and `power`.  That they come to the same thing is `guardedDiv_eq` and
`guardedPower_eq`: a guarded operation never refuses, and its answer is the one that
arithmetic without refusals gives.
-/

namespace Reckon

/-- Why an operation refuses its operands. -/
inductive ArithmeticFault where
  | zeroDivisor
  | overflow
  | domain
  deriving DecidableEq, Repr

/-- The text of a refusal. -/
def ArithmeticFault.message : ArithmeticFault → String
  | zeroDivisor => "float division by zero"
  | overflow => "math range error"
  | domain => "math domain error"

namespace Binary64

/-- Whether the datum is finite. -/
def isFinite : Binary64 → Bool
  | finite _ _ => true
  | _ => false

/-- Whether the datum is less than zero. -/
def isBelowZero (x : Binary64) : Bool := x.isNegative && !x.isZero

/-- One, with a sign. -/
def signedOne (negative : Bool) : Binary64 := if negative then -one else one

/-- The quotient, which a zero divisor does not have. -/
def strictDiv (a b : Binary64) : Except ArithmeticFault Binary64 :=
  if b.isZero then .error .zeroDivisor else .ok (a / b)

/-- The power, which finite operands have only where it is finite too. -/
def strictPower (base exponent : Binary64) : Except ArithmeticFault Binary64 :=
  let result := power base exponent
  if base.isFinite && exponent.isFinite then
    if result = nan then .error .domain
    else if result.isFinite then .ok result
    else if base.isZero then .error .domain
    else .error .overflow
  else .ok result

/-- The quotient as an expression has it. -/
def guardedDiv (a b : Binary64) : Except ArithmeticFault Binary64 :=
  if !b.isZero then strictDiv a b
  else if a.isZero || a = nan then .ok nan
  else .ok (infinity a.isNegative * signedOne b.isNegative)

/-- The power as an expression has it. -/
def guardedPower (base exponent : Binary64) : Except ArithmeticFault Binary64 :=
  match strictPower base exponent with
  | .error .overflow =>
    .ok (infinity (base.isBelowZero && exponent.isOddInteger))
  | .error .domain =>
    if base.isZero then
      if exponent.isOddInteger then .ok (infinity base.isNegative) else .ok (infinity false)
    else .ok nan
  | outcome => outcome

/-! ## The guards put nothing new

The quotient is settled by the table of kinds alone.  For the power it matters that the
power of a positive magnitude is never a NaN and has the sign that was asked for, so that a
result which is not finite is the infinity of that sign. -/

/-- The guarded quotient is the quotient. -/
theorem guardedDiv_eq (a b : Binary64) : guardedDiv a b = .ok (a / b) := by
  unfold guardedDiv
  cases zero : b.isZero with
  | false => simp [strictDiv, zero]
  | true =>
    obtain ⟨t, c, rfl, hc⟩ : ∃ t c, b = finite t c ∧ c.val = 0 := by
      cases b with
      | finite t c => exact ⟨t, c, rfl, by simpa [isZero] using zero⟩
      | _ => exact absurd zero (by simp [isZero])
    change _ = Except.ok (div a (finite t c))
    have one_ne : rankOfOne ≠ 0 := by decide
    cases a with
    | nan => simp [isZero, div]
    | infinity s =>
      change Except.ok (mul _ _) = _
      cases t <;> simp [signedOne, isNegative, one, mul, div, one_ne]
    | finite s r =>
      by_cases hr : r.val = 0
      · simp [isZero, div, hr, hc]
      · simp only [isZero, beq_eq_false_iff_ne.mpr hr, Bool.not_true, Bool.false_eq_true,
          ↓reduceIte, Bool.false_or, decide_false, reduceCtorEq]
        change Except.ok (mul _ _) = _
        cases t <;> simp [signedOne, isNegative, one, mul, div, one_ne, hr, hc]

/-- A rounded quotient has the sign that is asked for. -/
theorem ofQuotient_cases (negative : Bool) (num den : Nat) :
    ofQuotient negative num den = infinity negative ∨
      ∃ rank, ofQuotient negative num den = finite negative rank := by
  unfold ofQuotient
  split
  · exact .inr ⟨_, rfl⟩
  · exact .inl rfl

/-- The power of a positive magnitude has the sign that is asked for. -/
theorem ofFinite_cases (negative : Bool) (base : Nat) (exponentNegative : Bool)
    (exponent : Nat) :
    Power.ofFinite negative base exponentNegative exponent = infinity negative ∨
      ∃ rank, Power.ofFinite negative base exponentNegative exponent = finite negative rank := by
  unfold Power.ofFinite Power.exponential
  dsimp only
  split
  · exact .inl rfl
  · split
    · exact .inr ⟨_, rfl⟩
    · exact ofQuotient_cases _ _ _

/-- The power of finite operands is finite, or it has no value, or it is the infinity whose
sign is negative for a negative base and an odd exponent.  A zero base always has one. -/
theorem power_finite_cases (s t : Bool) (a b : Fin infinityRank) :
    (power (finite s a) (finite t b)).isFinite = true ∨
      power (finite s a) (finite t b) = infinity (s && (finite t b).isOddInteger) ∨
      (a.val ≠ 0 ∧ power (finite s a) (finite t b) = nan) := by
  by_cases unit : ((finite t b).isZero || finite s a = one) = true
  · exact .inl (by rw [power, if_pos unit]; rfl)
  rw [power, if_neg unit]
  dsimp only [isNegative]
  by_cases ha : a.val = 0
  · rw [if_pos ha]
    cases t with
    | false => exact .inl rfl
    | true => exact .inr (.inl rfl)
  · rw [if_neg ha]
    split
    · exact .inr (.inr ⟨ha, rfl⟩)
    · rcases ofFinite_cases (s && (finite t b).isOddInteger) a t b with h | ⟨rank, h⟩
      · exact .inr (.inl h)
      · exact .inl (by rw [h]; rfl)

/-- The guarded power is the power. -/
theorem guardedPower_eq (base exponent : Binary64) :
    guardedPower base exponent = .ok (power base exponent) := by
  cases base with
  | nan => simp [guardedPower, strictPower, isFinite]
  | infinity s => simp [guardedPower, strictPower, isFinite]
  | finite s a =>
    cases exponent with
    | nan => simp [guardedPower, strictPower, isFinite]
    | infinity t => simp [guardedPower, strictPower, isFinite]
    | finite t b =>
      have base_zero : (finite s a).isZero = decide (a.val = 0) := rfl
      rcases power_finite_cases s t a b with h | h | ⟨ha, h⟩
      · have ne_nan : power (finite s a) (finite t b) ≠ nan := by
          intro same
          rw [same] at h
          exact absurd h (by simp [isFinite])
        simp [guardedPower, strictPower, h, ne_nan]
      · -- refused for a zero base as having no value, and for any other as too large
        by_cases ha : a.val = 0
        · cases odd : (finite t b).isOddInteger <;>
            simp [guardedPower, strictPower, h, isFinite, base_zero, ha, odd, isNegative]
        · simp [guardedPower, strictPower, h, isFinite, base_zero, ha, isBelowZero, isNegative]
      · simp [guardedPower, strictPower, h, isFinite, base_zero, ha]

end Binary64

end Reckon
