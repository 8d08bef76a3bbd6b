import Reckon.Arrangement
import Reckon.Expr.Assembly
import Reckon.Expr.Value
import Reckon.Lexicon
import Reckon.Rejection.Snippet
import Reckon.Text.Blank

/-!
# The calculator

A source is read into tokens, the arrangement of the tokens is checked, an expression is
assembled, and its value is computed.  A source that a person got wrong is rejected, with
the place of the fault; the cause says which of the first two steps found it.

A calculator is given by its rules.  With rules other than the arithmetic ones two things
can go wrong that are nobody's typing: a matcher can break what it owes or look before the
beginning of the source, and a rule can give the kind of a number to a text that is none.
These are failures of another sort and carry no place in the source.

Each step relies on what the one before it promises.  Where a promise were broken, a
misplacement would name a token that is not there, the stacks would run out, or an operation
would be refused; these are failures too, and have constructors of their own.
-/

namespace Reckon

/-- The step that found a source wrong, and what it found. -/
inductive Cause where
  | lexing (fault : LexFault)
  | arrangement (misplacement : Misplacement)
  deriving DecidableEq, Repr

/-- Why there is no value. -/
inductive Failure where
  | rejected (rejection : Rejection) (cause : Cause)
  | brokenRule (fault : LexFault)
  /-- The token that a misplacement names is not there. -/
  | unlocated (misplacement : Misplacement)
  | unassembled (fault : AssemblyFault)
  | uncomputed (fault : ValueFault)
  deriving DecidableEq, Repr

/-- The text of a failure. -/
def Failure.message : Failure → String
  | rejected rejection _ => rejection.description
  | brokenRule fault => fault.message
  | unlocated _ => "list index out of range"
  | unassembled fault => fault.message
  | uncomputed fault => fault.message

/-- What evaluating one line came to. -/
structure LineResult where
  line : Int
  text : String
  outcome : Except Rejection Binary64

/-- A calculator is given by the rules by which it reads. -/
structure Calculator where
  rules : List Rule

namespace Calculator

/-- The calculator for arithmetic. -/
def standard : Calculator := ⟨arithmeticRules⟩

/-- How a lexing fault in a source is answered for. -/
def failureOfLexing (source : String) (fault : LexFault) : Failure :=
  match fault with
  | .unknownSymbol symbol offset =>
    .rejected ⟨.unknownSymbol, offset, offset + 1, source, some (String.singleton symbol)⟩
      (.lexing fault)
  | .brokenRule .. => .brokenRule fault
  | .outOfRange .. => .brokenRule fault

/-- How a misplacement among the tokens of a source is answered for.  One that shows at a
token covers that token. -/
def failureOfArrangement (source : String) (tokens : List Token)
    (misplacement : Misplacement) : Failure :=
  match misplacement.index with
  | none => .rejected ⟨misplacement.reason, -1, -1, source, none⟩ (.arrangement misplacement)
  | some index =>
    match Token.span? tokens index with
    | some span =>
      .rejected ⟨misplacement.reason, span.start, span.stop, source, none⟩
        (.arrangement misplacement)
    | none => .unlocated misplacement

/-- The tokens of a source. -/
def tokenize (calculator : Calculator) (source : String) : Except Failure (List Token) :=
  (Reckon.tokenize calculator.rules source).mapError (failureOfLexing source)

/-- The expression of a source. -/
def parse (calculator : Calculator) (source : String) : Except Failure Expr := do
  let tokens ← calculator.tokenize source
  (Arrangement.check tokens).mapError (failureOfArrangement source tokens)
  (Expr.ofTokens tokens).mapError .unassembled

/-- The value of a source. -/
def eval (calculator : Calculator) (source : String) : Except Failure Binary64 := do
  let tree ← calculator.parse source
  tree.calculate.mapError .uncomputed

/-- The result for one line.  A rejection is a result; other failures are not. -/
def evalLine (calculator : Calculator) (text : String) (line : Int) :
    Except Failure LineResult :=
  match calculator.eval text with
  | .ok value => .ok ⟨line, text, .ok value⟩
  | .error (.rejected rejection _) => .ok ⟨line, text, .error rejection⟩
  | .error failure => .error failure

/-- Whether a line of a document is passed over: it is blank, or it is a comment and
comments are recognised. -/
def isSkipped (comments : Bool) (content : List Char) : Bool :=
  match content.dropWhile isBlank with
  | [] => true
  | c :: _ => comments && c == '#'

/-- The lines of a document that are not passed over, with their numbers. -/
def linesToEvaluate (document : String) (comments : Bool) : List (Line × Nat) :=
  ((Line.ofText document.toList).zipIdx 1).filter fun (line, _) =>
    !isSkipped comments line.content

/-- The results for the lines of a document. -/
def evalLines (calculator : Calculator) (document : String) (comments : Bool) :
    Except Failure (List LineResult) :=
  (linesToEvaluate document comments).mapM fun (line, number) =>
    calculator.evalLine line.text number

end Calculator

/-- The value of a source under the arithmetic rules. -/
def evaluate (source : String) : Except Failure Binary64 := Calculator.standard.eval source

/-- The results for the lines of a document under the arithmetic rules. -/
def evaluateLines (document : String) (comments : Bool) : Except Failure (List LineResult) :=
  Calculator.standard.evalLines document comments

end Reckon
