import Reckon.Numeral.Digits
import Reckon.Decimal.Basic

/-!
# Real numerals

A real numeral is a sign, if any, followed by digits with at most one point among them
and at least one digit, and by an exponent, if any; or by a word for infinity or for
what is not a number, in any case of letters.  It stands for the datum nearest to the
number that it writes.

## Far exponents

A power of ten as large as an exponent may ask for need not be computed.  Counting from
the point, a number whose leading digit stands beyond the 310th place is infinite, and
one whose leading digit stands below the 330th place behind the point rounds to zero;
`ofDecimal` says so at once.
-/

namespace Reckon

/-- The datum nearest to a coefficient times a power of ten, with a sign. -/
def Binary64.ofDecimal (negative : Bool) (coefficient : Nat) (exponent : Int) : Binary64 :=
  if coefficient = 0 then zero negative
  else if 310 < digitCount coefficient + exponent then infinity negative
  else if digitCount coefficient + exponent < -330 then zero negative
  else ofQuotient negative (coefficient * tenTo exponent.toNat * unitsPerOne)
    (tenTo (-exponent).toNat)

namespace Numeral

/-- The exponent that a text consists of: nothing stands for zero, and otherwise there are
a letter, a sign, if any, and digits. -/
def exponent? : List Char → Option Int
  | [] => some 0
  | c :: rest =>
    if c = 'e' ∨ c = 'E' then
      let (negative, digits) := splitSign rest
      if digits ≠ [] ∧ digits.all Char.isDigit then
        some (if negative then -(value digits : Int) else value digits)
      else none
    else none

/-- The digits after a point, where there is one, and what follows them. -/
def splitFraction : List Char → List Char × List Char
  | '.' :: rest => rest.span Char.isDigit
  | text => ([], text)

/-- The datum of a numeral without a sign. -/
def unsigned? (negative : Bool) (text : List Char) : Option Binary64 :=
  let word := String.ofList (text.map Char.toLower)
  if word = "inf" ∨ word = "infinity" then some (.infinity negative)
  else if word = "nan" then some .nan
  else
    let (whole, rest) := text.span Char.isDigit
    let (fraction, rest) := splitFraction rest
    if whole = [] ∧ fraction = [] then none
    else (exponent? rest).map fun exponent =>
      .ofDecimal negative (value (whole ++ fraction)) (exponent - fraction.length)

/-- The datum that a text writes as a real numeral. -/
def real? (text : String) : Option Binary64 := do
  let (negative, rest) := splitSign (← dropUnderscores ' ' (core text))
  unsigned? negative rest

end Numeral

end Reckon
