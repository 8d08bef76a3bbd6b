import Reckon.Numeral.Digits

/-!
# Whole numerals

A whole numeral is a sign, if any, and digits.  Numerals of more than `digitLimit` digits
are refused, whether they are to be read or to be written.
-/

namespace Reckon

namespace Numeral

/-- The most digits that a whole numeral may have. -/
abbrev digitLimit : Nat := 4300

/-- The number that a text writes as a whole numeral. -/
def whole? (text : String) : Option Int := do
  let (negative, digits) := splitSign (← dropUnderscores ' ' (core text))
  if digits ≠ [] ∧ digits.all Char.isDigit ∧ digits.length ≤ digitLimit then
    some (if negative then -(value digits : Int) else value digits)
  else none

/-- Whether a number is written with no more digits than are accepted. -/
def isWritable (n : Int) : Bool := n.natAbs < Nat.pow 10 digitLimit

/-- What is said of too many digits; how many there are is known where a numeral is read. -/
def limitMessage (count : Option Nat) : String :=
  s!"Exceeds the limit ({digitLimit} digits) for integer string conversion"
    ++ (match count with
      | some count => s!": value has {count} digits"
      | none => "")
    ++ "; use sys.set_int_max_str_digits() to increase the limit"

end Numeral

end Reckon
