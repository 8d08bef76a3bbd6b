/-!
# Binary64 data

A double-precision datum is a NaN, a signed infinity, or a sign together with a
finite magnitude.  The library computes with these data exactly and never with
the machine's own floating type: the machine's operations are opaque to a proof,
and every law stated later about signs, rounding or printed digits has to
see through them.

## Magnitudes are ranks

The finite magnitudes of the format form a finite increasing sequence starting
at zero, and a magnitude is stored as its place in that sequence, its *rank*.
The rank is at the same time the low 63 bits of the encoding, so packing and
unpacking are divisions by `2 ^ 63`, and comparing magnitudes is comparing ranks.

What a rank is worth is `units`: its value as a multiple of `2 ^ (-1074)`, the
least positive magnitude.  Every finite value is a whole number of units, so all
of the arithmetic takes place in `Nat`.

NaNs carry neither sign nor payload; there is one.
-/

namespace Reckon

/-- A power of two. -/
abbrev twoTo (exponent : Nat) : Nat := Nat.pow 2 exponent

/-- The number of magnitudes from one power of two up to the next. -/
abbrev binade : Nat := 0x10000000000000

/-- The number of finite magnitudes, which is also the place that infinity takes
after the last of them. -/
abbrev infinityRank : Nat := 2047 * binade

/-- A double-precision datum. -/
inductive Binary64 where
  | nan
  | infinity (negative : Bool)
  | finite (negative : Bool) (rank : Fin infinityRank)
  deriving DecidableEq, Repr

namespace Binary64

/-- The value of a rank, counted in multiples of the least positive magnitude.

The quotient by the size of a binade is the exponent field.  Field zero holds the
subnormal magnitudes, which are their own value; every later field adds the hidden bit
and doubles. -/
def units (rank : Nat) : Nat :=
  if rank / binade = 0 then rank
  else (binade + rank % binade) * twoTo (rank / binade - 1)

/-- How many units make one. -/
abbrev unitsPerOne : Nat := twoTo 1074

/-- The zero of a sign. -/
def zero (negative : Bool) : Binary64 := finite negative ⟨0, by decide⟩

/-- The rank of the number one. -/
abbrev rankOfOne : Nat := 1023 * binade

/-- The number one. -/
def one : Binary64 := finite false ⟨rankOfOne, by decide⟩

instance : Inhabited Binary64 := ⟨zero false⟩

/-! ## Encoding -/

/-- The word whose only bit is that of the sign. -/
abbrev signWord : Nat := 0x8000000000000000

/-- The datum that a 64-bit word encodes. -/
def ofBits (word : UInt64) : Binary64 :=
  let negative := decide (signWord ≤ word.toNat)
  let rank := word.toNat % signWord
  if h : rank < infinityRank then finite negative ⟨rank, h⟩
  else if rank = infinityRank then infinity negative
  else nan

/-- The word of a sign and a rank. -/
def packed (negative : Bool) (rank : Nat) : UInt64 :=
  UInt64.ofNat ((if negative then signWord else 0) + rank)

/-- The word that encodes a datum; a NaN is the quiet one without a sign. -/
def toBits : Binary64 → UInt64
  | nan => packed false (infinityRank + binade / 2)
  | infinity negative => packed negative infinityRank
  | finite negative rank => packed negative rank

/-! ## Signs and kinds -/

/-- The datum with the opposite sign. -/
def neg : Binary64 → Binary64
  | nan => nan
  | infinity negative => infinity !negative
  | finite negative rank => finite (!negative) rank

instance : Neg Binary64 := ⟨neg⟩

@[simp] theorem neg_nan : -nan = nan := rfl

@[simp] theorem neg_infinity (negative : Bool) : -infinity negative = infinity !negative := rfl

@[simp] theorem neg_finite (negative : Bool) (rank : Fin infinityRank) :
    -finite negative rank = finite (!negative) rank := rfl

/-- Whether the sign is negative; a NaN has none. -/
def isNegative : Binary64 → Bool
  | nan => false
  | infinity negative => negative
  | finite negative _ => negative

/-- Whether the datum is a zero of either sign. -/
def isZero : Binary64 → Bool
  | finite _ rank => rank.val == 0
  | _ => false

/-- Whether the datum is a finite whole number. -/
def isInteger : Binary64 → Bool
  | finite _ rank => units rank % unitsPerOne == 0
  | _ => false

/-- Whether the datum is a finite odd whole number. -/
def isOddInteger : Binary64 → Bool
  | finite _ rank => units rank % (2 * unitsPerOne) == unitsPerOne
  | _ => false

/-- The signed number of units of a finite datum. -/
def signedUnits (negative : Bool) (rank : Nat) : Int :=
  if negative then -(units rank : Int) else units rank

end Binary64

end Reckon
