/-!
# Reasons

Why an expression is not evaluated.  The first reason is found while the source is read,
the others while the arrangement of its tokens is checked.
-/

namespace Reckon

/-- Why an expression is not evaluated. -/
inductive Reason where
  | unknownSymbol
  | operatorBeforeClose
  | unbalanced
  | adjacentOperators
  | operatorAfterOpen
  | leadingOperator
  | trailingOperator
  | emptyParens
  | missingOperator
  | emptyExpression
  deriving DecidableEq, Repr

/-- The words for a reason. -/
def Reason.message : Reason → String
  | unknownSymbol => "unknown symbol"
  | operatorBeforeClose => "cannot have an operator before a closing parenthesis"
  | unbalanced => "unbalanced parentheses"
  | adjacentOperators => "cannot have two operators side by side"
  | operatorAfterOpen => "cannot have an operator after an opening parenthesis"
  | leadingOperator => "expression cannot start with an operator"
  | trailingOperator => "expression cannot end with an operator"
  | emptyParens => "empty parentheses"
  | missingOperator => "missing operator between operands"
  | emptyExpression => "empty expression"

end Reckon
