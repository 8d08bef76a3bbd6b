import Reckon.Token
import Reckon.Reason

/-!
# The arrangement of tokens

Before a tree is built, the order of the tokens is checked in one pass that looks at no
more than the token before and the number of open parentheses.  A number directly before
an opening parenthesis is in order: it multiplies the group.

A token that cannot stand where it does is reported with its index.  Blanks are passed
over but keep their index.  What only shows at the end of the tokens has no token of its
own, with one exception: an operator at the end is reported where it stands.
-/

namespace Reckon

/-- What is wrong with the order of tokens, and the index of the token where it shows; the
end of the tokens has no index. -/
structure Misplacement where
  reason : Reason
  index : Option Nat
  deriving DecidableEq, Repr

namespace Misplacement

/-- The index as a number, which is minus one at the end of the tokens. -/
def indexNumber (misplacement : Misplacement) : Int :=
  match misplacement.index with
  | some index => index
  | none => -1

/-- The text of a misplacement. -/
def message (misplacement : Misplacement) : String :=
  s!"{misplacement.reason.message} (token {misplacement.indexNumber})"

end Misplacement

namespace Arrangement

/-- What is wrong with a token after the token before it, with `depth` parentheses open. -/
def flaw? (depth : Nat) : Option TokenKind → TokenKind → Option Reason
  | some (.operator _), .closeParen => some .operatorBeforeClose
  | before, .closeParen =>
    if depth = 0 then some .unbalanced
    else if before = some .openParen then some .emptyParens
    else none
  | some (.operator _), .operator _ => some .adjacentOperators
  | some .openParen, .operator _ => some .operatorAfterOpen
  | none, .operator _ => some .leadingOperator
  | some .number, .number => some .missingOperator
  | some .closeParen, .number => some .missingOperator
  | some .closeParen, .openParen => some .missingOperator
  | _, _ => none

/-- The number of open parentheses after a token. -/
def depthAfter (depth : Nat) : TokenKind → Nat
  | .openParen => depth + 1
  | .closeParen => depth - 1
  | _ => depth

/-- What the scan knows: how many parentheses are open, and the kind and the index of the
last token that is no blank. -/
structure State where
  depth : Nat
  last : Option (TokenKind × Nat)
  deriving DecidableEq, Repr

/-- Before any token. -/
def start : State := ⟨0, none⟩

/-- The state after tokens, the first of which has a given index. -/
def scan (state : State) (index : Nat) : List Token → Except Misplacement State
  | [] => .ok state
  | token :: rest =>
    if token.isSpace then scan state (index + 1) rest
    else match flaw? state.depth (state.last.map Prod.fst) token.kind with
      | some reason => .error ⟨reason, some index⟩
      | none =>
        scan ⟨depthAfter state.depth token.kind, some (token.kind, index)⟩ (index + 1) rest

/-- What is wrong with a state at the end of the tokens. -/
def finish (state : State) : Except Misplacement Unit :=
  if state.depth ≠ 0 then .error ⟨.unbalanced, none⟩
  else match state.last with
    | none => .error ⟨.emptyExpression, none⟩
    | some (.operator _, index) => .error ⟨.trailingOperator, some index⟩
    | some _ => .ok ()

/-- Whether tokens are in order, and what is wrong first where they are not. -/
def check (tokens : List Token) : Except Misplacement Unit :=
  scan start 0 tokens >>= finish

end Arrangement

end Reckon
