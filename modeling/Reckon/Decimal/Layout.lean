import Reckon.Decimal.Basic

/-!
# How a decimal is laid out

A decimal is written in one of two forms: positionally, or as a leading digit, a
fraction and an exponent.  A `Layout` says where the first form ends and whether a
whole number shows a fraction of zero.  Small numbers leave the positional form below
`10 ^ (-4)` in every layout; an exponent has a sign and at least two digits.
-/

namespace Reckon

/-- The choices left open in writing a decimal. -/
structure Layout where
  /-- The least leading exponent that is no longer positional. -/
  positionalBelow : Int
  /-- What follows a whole number in positional form. -/
  wholeSuffix : String

namespace Layout

/-- The exponent part, as in `e+16` and `e-05`. -/
def exponentPart (exponent : Int) : List Char :=
  let digits := Nat.toDigits 10 exponent.natAbs
  ['e', if exponent < 0 then '-' else '+']
    ++ (if digits.length < 2 then '0' :: digits else digits)

/-- A leading digit, a fraction where there are more digits, and an exponent. -/
def exponential (digits : List Char) (leading : Int) : List Char :=
  digits.take 1
    ++ (if digits.length ≤ 1 then [] else '.' :: digits.drop 1)
    ++ exponentPart leading

/-- All digits at their places, with zeros up to the point. -/
def positional (layout : Layout) (digits : List Char) (leading : Int) : List Char :=
  if leading < 0 then
    ['0', '.'] ++ List.replicate (-leading - 1).toNat '0' ++ digits
  else
    let places := (leading + 1).toNat
    if digits.length ≤ places then
      digits ++ List.replicate (places - digits.length) '0' ++ layout.wholeSuffix.toList
    else digits.take places ++ '.' :: digits.drop places

/-- The text of a shortened decimal. -/
def render (layout : Layout) (d : Decimal) : String :=
  let digits := Nat.toDigits 10 d.coefficient
  let leading := d.exponent + digits.length - 1
  String.ofList (
    if -4 ≤ leading ∧ leading < layout.positionalBelow then layout.positional digits leading
    else exponential digits leading)

end Layout

/-- The text of a datum whose finite magnitudes are written by `magnitude`. -/
def Binary64.textWith (magnitude : Nat → String) : Binary64 → String
  | .nan => "nan"
  | .infinity negative => if negative then "-inf" else "inf"
  | .finite negative rank => if negative then "-" ++ magnitude rank else magnitude rank

end Reckon
