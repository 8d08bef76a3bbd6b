import Reckon.Expr.Basic
import Reckon.Numeral.Real
import Reckon.Text.Quoted

/-!
# Assembling an expression from tokens

Two stacks are filled in one pass from the left: finished expressions, and operators and
opened groups that are still pending.  An operator first completes every pending operator
that binds at least as tightly, so all operators group from the left, powers included.  A
closing parenthesis completes everything up to the group that it closes.

## A number before a group

A number directly before an opening parenthesis multiplies the group.  This product is
made pending without completing anything, so it binds more tightly than every operator on
its left, and, being a product, more loosely than a power on its right.

## Tokens out of order

Assembly assumes that the arrangement has been checked, but is total.  Without the check
an operator can lack an operand, a closing parenthesis can lack its group, and a group can
be left open; the last is noticed only when the two expressions that it would join are
there.  Expressions left over below the last one are ignored.
-/

namespace Reckon

/-- Why tokens make no expression. -/
inductive AssemblyFault where
  | missingOperand
  | unmatchedClose
  | unclosedGroup
  | malformedNumber (text : String)
  deriving DecidableEq, Repr

/-- The text of a fault. -/
def AssemblyFault.message : AssemblyFault → String
  | missingOperand => "pop from empty list"
  | unmatchedClose => "pop from empty list"
  | unclosedGroup => "<TokenType.LPAREN: 7>"
  | malformedNumber text => s!"could not convert string to float: {quoted text}"

namespace Assembly

/-- What waits for its right side to be finished. -/
inductive Pending where
  | operator (op : Operator)
  | group
  deriving DecidableEq, Repr

/-- The two stacks, the top first. -/
structure Stacks where
  pending : List Pending
  finished : List Expr
  deriving DecidableEq, Repr

/-- Joins the two topmost expressions by an operator. -/
def reduce (op : Operator) : List Expr → Except AssemblyFault (List Expr)
  | right :: left :: rest => .ok (.binary op left right :: rest)
  | _ => .error .missingOperand

/-- Completes whatever is pending; a group cannot be completed. -/
def reducePending : Pending → List Expr → Except AssemblyFault (List Expr)
  | .operator op, finished => reduce op finished
  | .group, _ :: _ :: _ => .error .unclosedGroup
  | .group, _ => .error .missingOperand

/-- Completes the topmost pending operators that bind at least as tightly as `op`. -/
def completeTighter (op : Operator) : List Pending → List Expr → Except AssemblyFault Stacks
  | .operator top :: pending, finished =>
    if top.precedence < op.precedence then .ok ⟨.operator top :: pending, finished⟩
    else reduce top finished >>= completeTighter op pending
  | pending, finished => .ok ⟨pending, finished⟩

/-- Completes everything up to the innermost opened group, and closes it. -/
def closeGroup : List Pending → List Expr → Except AssemblyFault Stacks
  | [], _ => .error .unmatchedClose
  | .group :: pending, finished => .ok ⟨pending, finished⟩
  | .operator op :: pending, finished => reduce op finished >>= closeGroup pending

/-- Completes everything that is pending. -/
def completeAll : List Pending → List Expr → Except AssemblyFault (List Expr)
  | [], finished => .ok finished
  | top :: pending, finished => reducePending top finished >>= completeAll pending

/-- What a token does to the stacks, after a token of kind `before`. -/
def step (state : Stacks) (before : Option TokenKind) (token : Token) :
    Except AssemblyFault Stacks :=
  match token.kind with
  | .space => .ok state
  | .number =>
    match Numeral.real? token.text with
    | some value => .ok { state with finished := .number value :: state.finished }
    | none => .error (.malformedNumber token.text)
  | .operator op => do
    let state ← completeTighter op state.pending state.finished
    .ok { state with pending := .operator op :: state.pending }
  | .openParen =>
    let pending :=
      if before = some .number then .operator .mul :: state.pending else state.pending
    .ok { state with pending := .group :: pending }
  | .closeParen => closeGroup state.pending state.finished

/-- What tokens do to the stacks, after a token of kind `before`.  Blanks do not count as
the token before. -/
def run (state : Stacks) (before : Option TokenKind) :
    List Token → Except AssemblyFault Stacks
  | [] => .ok state
  | token :: rest => do
    let state ← step state before token
    run state (if token.isSpace then before else some token.kind) rest

end Assembly

open Assembly in
/-- The expression that tokens make up. -/
def Expr.ofTokens (tokens : List Token) : Except AssemblyFault Expr := do
  let state ← run ⟨[], []⟩ none tokens
  match ← completeAll state.pending state.finished with
  | result :: _ => .ok result
  | [] => .error .missingOperand

end Reckon
