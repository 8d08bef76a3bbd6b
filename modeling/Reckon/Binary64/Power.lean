import Reckon.Binary64.Rounding

/-!
# Powers

A power of a finite positive base is found in fixed point: take the binary logarithm
of the base, multiply by the exponent, and raise two to the product.  Everything else
is decided by signs and kinds alone.

## The logarithm by squaring

Write the base as a power of two times a mantissa `m` between one and two.  Squaring
`m` doubles its logarithm, so the integer part that appears is the next bit of the
logarithm of `m`; halving `m` when it appears restores the range.  An error made at
one squaring weighs half as much as one made at the squaring before, so the logarithm
is as good as the mantissa's precision.

## The exponential by roots

The bits of the fraction choose among the numbers `2 ^ (1 / 2)`, `2 ^ (1 / 4)`, …,
each the square root of the one before, and the result is their product.

The product is exact to well over two hundred bits.  It is rounded to two hundred of
them first: a power that has a short exact value, such as a whole number raised to a
small whole number, is recovered without error, and the final rounding then sees the
exact value.

## Signs

The result is negative exactly when the base is negative and the exponent is an odd
whole number.  This holds for zeros and infinities too, so the sign is settled before
the magnitude is looked at.

## The last bit

The magnitude is rounded correctly.  Libraries that raise to a power agree with it in the
sign, in the zeros and infinities, and in what is refused, but not always in the last bit of
the magnitude, which no standard settles.  What is proved of powers does not depend on it.
-/

namespace Reckon

namespace Binary64

namespace Power

/-- How many fraction bits the logarithm has. -/
abbrev logarithmBits : Nat := 384

/-- How many fraction bits a mantissa has while its logarithm is taken. -/
abbrev mantissaBits : Nat := 512

/-- How many fraction bits of a product of exponent and logarithm are used. -/
abbrev exponentBits : Nat := 256

/-- How many fraction bits the roots of two have. -/
abbrev rootBits : Nat := 320

/-- The first `count` bits of the logarithm of a mantissa, after the bits in `bits`. -/
def mantissaLogarithm : Nat → Nat → Nat → Nat
  | 0, _, bits => bits
  | count + 1, mantissa, bits =>
    let square := (mantissa * mantissa) >>> mantissaBits
    if square < twoTo (mantissaBits + 1) then mantissaLogarithm count square (2 * bits)
    else mantissaLogarithm count (square / 2) (2 * bits + 1)

/-- The binary logarithm of a positive number of units, as a value and not as a count of
units, in multiples of `2 ^ (-logarithmBits)`. -/
def logarithm (magnitude : Nat) : Int :=
  let whole := magnitude.log2
  let mantissa := magnitude <<< mantissaBits >>> whole
  ((whole : Int) - 1074) * (twoTo logarithmBits : Nat)
    + mantissaLogarithm logarithmBits mantissa 0

/-- The whole part of the square root of `n`, found by descending from `guess`, which is
not below it. -/
def rootBelow (n guess : Nat) : Nat :=
  let next := (guess + n / guess) / 2
  if next < guess then rootBelow n next else guess
termination_by guess

/-- The first `count` square roots of `root`, each the root of the one before. -/
def roots : Nat → Nat → List Nat
  | 0, _ => []
  | count + 1, root =>
    let next := rootBelow (root <<< rootBits) root
    next :: roots count next

/-- The numbers `2 ^ (1 / 2)`, `2 ^ (1 / 4)`, … in multiples of `2 ^ (-rootBits)`. -/
def rootsOfTwo : List Nat := roots exponentBits (twoTo (rootBits + 1))

/-- The product of those roots whose bit is set in `fraction`, the highest bit first. -/
def chosenProduct (fraction : Nat) : Nat → List Nat → Nat → Nat
  | _, [], product => product
  | 0, _ :: _, product => product
  | place + 1, root :: rest, product =>
    chosenProduct fraction place rest
      (if fraction.testBit place then (product * root) >>> rootBits else product)

/-- Two to the power of a number in multiples of `2 ^ (-exponentBits)`, as a magnitude
with a sign. -/
def exponential (negative : Bool) (power : Int) : Binary64 :=
  let whole := power / (twoTo exponentBits : Nat)
  if 1100 ≤ whole then infinity negative
  else if whole ≤ -1200 then zero negative
  else
    let product := chosenProduct (power % (twoTo exponentBits : Nat)).toNat exponentBits
      rootsOfTwo (twoTo rootBits)
    let leading := roundDiv product (twoTo (rootBits - 199))
    let scale := whole + 1074 - 199
    ofQuotient negative (leading * twoTo scale.toNat) (twoTo (-scale).toNat)

/-- The power of a finite positive magnitude to a finite exponent, with a given sign. -/
def ofFinite (negative : Bool) (base : Nat) (exponentNegative : Bool) (exponent : Nat) :
    Binary64 :=
  exponential negative
    (signedUnits exponentNegative exponent * logarithm (units base)
      / (twoTo (1074 + logarithmBits - exponentBits) : Nat))

/-- The power of a magnitude to an infinite exponent: one stays one, and of the others
those that grow without bound are infinite and those that shrink vanish. -/
def toInfinity (base : Nat) (exponentNegative : Bool) : Binary64 :=
  if base = rankOfOne then one
  else if decide (rankOfOne < base) ^^ exponentNegative then infinity false
  else zero false

end Power

open Power in
/-- The power.  A power of one, and a power to zero, is one, whatever the other operand. -/
def power (base exponent : Binary64) : Binary64 :=
  let negative := base.isNegative && exponent.isOddInteger
  if exponent.isZero || base = one then one
  else match base, exponent with
    | nan, _ => nan
    | _, nan => nan
    | infinity _, _ => if exponent.isNegative then zero negative else infinity negative
    | finite _ a, infinity t => toInfinity a t
    | finite s a, finite t b =>
      if a.val = 0 then if t then infinity negative else zero negative
      else if s && !exponent.isInteger then nan
      else ofFinite negative a t b

end Binary64

end Reckon
