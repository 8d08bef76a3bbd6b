import Reckon.Binary64.Rounding

/-!
# The four operations

Each operation is exact on finite operands and rounds once.  Infinities and NaNs
follow the usual table: a difference of equal infinities, a zero times an infinity,
and a quotient of two zeros or of two infinities have no value; a finite number over
zero is infinite.  No operation fails.

An exact sum of zero is the positive zero unless both operands are negative zeros.
-/

namespace Reckon

namespace Binary64

/-- The sum. -/
def add : Binary64 → Binary64 → Binary64
  | nan, _ => nan
  | _, nan => nan
  | infinity s, infinity t => if s = t then infinity s else nan
  | infinity s, finite _ _ => infinity s
  | finite _ _, infinity t => infinity t
  | finite s a, finite t b =>
    let sum := signedUnits s a + signedUnits t b
    if sum = 0 then zero (s && t) else ofQuotient (decide (sum < 0)) sum.natAbs 1

/-- The difference. -/
def sub (a b : Binary64) : Binary64 := add a (-b)

/-- The product. -/
def mul : Binary64 → Binary64 → Binary64
  | nan, _ => nan
  | _, nan => nan
  | infinity s, infinity t => infinity (s ^^ t)
  | infinity s, finite t b => if b.val = 0 then nan else infinity (s ^^ t)
  | finite s a, infinity t => if a.val = 0 then nan else infinity (s ^^ t)
  | finite s a, finite t b => ofQuotient (s ^^ t) (units a * units b) unitsPerOne

/-- The quotient. -/
def div : Binary64 → Binary64 → Binary64
  | nan, _ => nan
  | _, nan => nan
  | infinity _, infinity _ => nan
  | infinity s, finite t _ => infinity (s ^^ t)
  | finite s _, infinity t => zero (s ^^ t)
  | finite s a, finite t b =>
    if b.val = 0 then if a.val = 0 then nan else infinity (s ^^ t)
    else ofQuotient (s ^^ t) (units a * unitsPerOne) (units b)

instance : Add Binary64 := ⟨add⟩
instance : Sub Binary64 := ⟨sub⟩
instance : Mul Binary64 := ⟨mul⟩
instance : Div Binary64 := ⟨div⟩

end Binary64

end Reckon
