import Reckon.Numeral.Whole
import Reckon.Reason
import Reckon.Text.Quoted

/-!
# Rejections

A rejection says why a source was not evaluated and which part of it is to blame.  The
part is given by two offsets; they are both minus one where the fault is certain but has
no place, as when a group is still open at the end.  Two rejections are the same when
they agree in everything but the source.

## When it cannot be put into words

The description of a rejection is written as soon as the rejection is made, and it says the two
offsets.  A whole number of too many digits cannot be written, so no rejection is made with one.
-/

namespace Reckon

/-- Why a source was not evaluated, and where the fault lies in it. -/
structure Rejection where
  reason : Reason
  start : Int
  stop : Int
  source : String
  /-- The symbol that no rule reads, where that is the reason. -/
  symbol : Option String
  deriving DecidableEq, Repr

namespace Rejection

/-- Why a rejection cannot be put into words. -/
inductive Unprintable where
  | tooManyDigits
  | tooWide
  deriving DecidableEq, Repr

/-- The text of that reason. -/
def Unprintable.message : Unprintable → String
  | tooManyDigits => Numeral.limitMessage none
  | tooWide => "cannot fit 'int' into an index-sized integer"

/-- The reason in words, with the symbol where there is one. -/
def message (rejection : Rejection) : String :=
  match rejection.reason, rejection.symbol with
  | .unknownSymbol, some symbol => s!"{rejection.reason.message} {quoted symbol}"
  | _, _ => rejection.reason.message

/-- The reason in words with the two offsets. -/
def description (rejection : Rejection) : String :=
  s!"{rejection.message} in position ({rejection.start}, {rejection.stop})"

/-- The rejection with some data, if its description can be written. -/
def make (reason : Reason) (start stop : Int) (source : String) (symbol : Option String) :
    Except Unprintable Rejection :=
  if Numeral.isWritable start && Numeral.isWritable stop then
    .ok ⟨reason, start, stop, source, symbol⟩
  else .error .tooManyDigits

/-- Whether the fault has a place. -/
def hasPosition (rejection : Rejection) : Bool := 0 ≤ rejection.start

/-- Whether two rejections agree in everything but the source. -/
def same (a b : Rejection) : Bool :=
  a.reason = b.reason && a.start = b.start && a.stop = b.stop && a.symbol = b.symbol

end Rejection

end Reckon
