import Reckon.Decimal.Layout
import Reckon.Numeral.Whole

/-!
# A given number of significant digits

Results are printed with at most a given number of significant digits: the exact value
is rounded once, half to even, and the zeros at the end are dropped.  An exponent is
used as soon as the leading digit stands beyond the precision.

The exact value of a finite datum never has more than 767 significant digits, so a
precision beyond that asks for nothing more, and the digits are computed for at most
`exactDigits` of them.

## Which precisions there are

A precision of zero acts as one.  A negative precision, and one that does not fit in a
32-bit count, is refused; one that does not fit in a 64-bit count is refused in other
words, and so is one that has too many digits to be written.
-/

namespace Reckon

/-- Why a number of significant digits is not accepted. -/
inductive PrecisionFault where
  | missing
  | tooBig
  | tooManyDigits
  | unwritable
  deriving DecidableEq, Repr

/-- The text of a fault. -/
def PrecisionFault.message : PrecisionFault → String
  | missing => "Format specifier missing precision"
  | tooBig => "precision too big"
  | tooManyDigits => "Too many decimal digits in format string"
  | unwritable => Numeral.limitMessage none

/-- The fault of a precision that is not accepted.  A precision is written before it is looked
at, so that it cannot be written comes first. -/
def PrecisionFault.of (precision : Int) (fault : PrecisionFault) : PrecisionFault :=
  if Numeral.isWritable precision then fault else .unwritable

/-- The number of significant digits that a precision stands for. -/
def significantDigits (precision : Int) : Except PrecisionFault Nat :=
  if precision < 0 then .error (.of precision .missing)
  else if 0x8000000000000000 ≤ precision then .error (.of precision .tooManyDigits)
  else if 0x80000000 ≤ precision then .error .tooBig
  else .ok (max 1 precision.toNat)

namespace Decimal

/-- No finite datum has more significant digits than this. -/
abbrev exactDigits : Nat := 800

/-- A positive rank rounded to `count` significant digits. -/
def significant (rank count : Nat) : Decimal :=
  let exponent := leadingExponent (Binary64.units rank) Binary64.unitsPerOne
    - (min count exactDigits : Nat) + 1
  let (num, den) := inMultiplesOf exponent (Binary64.units rank) Binary64.unitsPerOne
  shorten (roundDiv num den) exponent

end Decimal

namespace Binary64

/-- The text of a finite magnitude with at most `count` significant digits. -/
def significantMagnitude (count rank : Nat) : String :=
  Layout.render ⟨count, ""⟩ (if rank = 0 then ⟨0, 0⟩ else Decimal.significant rank count)

/-- The text of a datum with at most `count` significant digits. -/
def toSignificant (count : Nat) (x : Binary64) : String :=
  x.textWith (significantMagnitude count)

/-- The text of a result in a precision, where the precision is accepted. -/
def display (x : Binary64) (precision : Int) : Except PrecisionFault String :=
  (significantDigits precision).map (toSignificant · x)

end Binary64

end Reckon
