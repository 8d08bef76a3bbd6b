import Reckon.Calculator
import Reckon.Decimal.Shortest

/-!
# Traces

A trace says what a calculator has done: how many tokens it has read from a source, how
many it has found in order, and what value it has arrived at.  A step that fails leaves no
record, and neither do the steps after it.  So a trace is a view of what the steps come to,
and the steps themselves do not keep it.
-/

namespace Reckon

/-- One thing that has been done. -/
inductive Record where
  | lexed (count : Nat) (source : String)
  | validated (count : Nat)
  | calculated (source : String) (value : Binary64)
  | finished (count : Nat) (failed : Bool)
  deriving DecidableEq, Repr

/-- The text of a record. -/
def Record.message : Record → String
  | lexed count source =>
    s!"DEBUG calcexpr.lexer: lexed {count} tokens from {quoted source}"
  | validated count => s!"DEBUG calcexpr.validator: validated {count} tokens"
  | calculated source value =>
    s!"DEBUG calcexpr.calculator: {quoted source} = {value.toShortest}"
  | finished count failed =>
    s!"DEBUG calcexpr.cli: evaluated {count} expression(s), "
      ++ (if failed then "failed=True" else "failed=False")

namespace Calculator

/-- The trace of reading a source into tokens. -/
def lexTrace (calculator : Calculator) (source : String) : List Record :=
  match calculator.tokenize source with
  | .ok tokens => [.lexed tokens.length source]
  | .error _ => []

/-- The trace of making an expression of a source. -/
def parseTrace (calculator : Calculator) (source : String) : List Record :=
  match calculator.tokenize source with
  | .ok tokens =>
    match Arrangement.check tokens with
    | .ok _ => [.lexed tokens.length source, .validated tokens.length]
    | .error _ => [.lexed tokens.length source]
  | .error _ => []

/-- The trace of evaluating a source. -/
def evalTrace (calculator : Calculator) (source : String) : List Record :=
  calculator.parseTrace source ++
    match calculator.eval source with
    | .ok value => [.calculated source value]
    | .error _ => []

end Calculator

end Reckon
