import Reckon.Token
import Reckon.Binary64.Basic

/-!
# Expressions

An expression is a number or an operator between two expressions.  Parentheses leave no
trace in it, and a number before a group is an ordinary product.
-/

namespace Reckon

/-- An arithmetic expression. -/
inductive Expr where
  | number (value : Binary64)
  | binary (op : Operator) (left right : Expr)
  deriving DecidableEq, Repr, Inhabited

end Reckon
