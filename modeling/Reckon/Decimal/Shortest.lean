import Reckon.Decimal.Layout

/-!
# The shortest text that reads back

A number is written with the fewest significant digits from which the reading of
numerals recovers it.  The search goes through the decimal grids of one digit, two
digits and so on.  On each grid only the two neighbours of the value can read back if
any point does: they are tried, the nearer first, and the first that reads back is the
result.  Seventeen digits always suffice.

From `10 ^ 16` on, numbers are written with an exponent, and a whole number below that
keeps a fraction of zero.
-/

namespace Reckon

namespace Decimal

/-- The point next to the nearest one on a grid, on the other side of the quotient. -/
def otherNeighbour (num den : Nat) : Nat :=
  if roundDiv num den = num / den then num / den + 1 else num / den

/-- A decimal of `count` digits that reads back as a rank, if one of the two neighbours
on that grid does. -/
def ofCount? (rank count : Nat) : Option Decimal :=
  let exponent := leadingExponent (Binary64.units rank) Binary64.unitsPerOne - count + 1
  let (num, den) := inMultiplesOf exponent (Binary64.units rank) Binary64.unitsPerOne
  let nearest : Decimal := ⟨roundDiv num den, exponent⟩
  let other : Decimal := ⟨otherNeighbour num den, exponent⟩
  if nearest.nearestRank = rank then some nearest
  else if other.nearestRank = rank then some other
  else none

/-- The first hit among `tries` grids, the first of them with `count` digits. -/
def search (rank : Nat) : Nat → Nat → Option Decimal
  | 0, _ => none
  | tries + 1, count => (ofCount? rank count).or (search rank tries (count + 1))

/-- The decimal with the fewest digits that reads back as a positive rank. -/
def shortest (rank : Nat) : Decimal :=
  (search rank 17 1).elim ⟨0, 0⟩ fun d => shorten d.coefficient d.exponent

end Decimal

namespace Binary64

/-- Positional below `10 ^ 16`, with a fraction of zero on whole numbers. -/
def shortestLayout : Layout := ⟨16, ".0"⟩

/-- The text of a finite magnitude. -/
def shortestMagnitude (rank : Nat) : String :=
  shortestLayout.render (if rank = 0 then ⟨0, 0⟩ else Decimal.shortest rank)

/-- The shortest text that reads back as the datum. -/
def toShortest (x : Binary64) : String := x.textWith shortestMagnitude

instance : ToString Binary64 := ⟨toShortest⟩

end Binary64

end Reckon
