/-!
# Tokens

A token is a kind together with the exact text that it stands for.  Blanks are tokens
too, so that the texts of the tokens of a source, joined, are the source again, and the
place of a token in the source is the width of the tokens before it.  Tokens themselves
carry no positions.
-/

namespace Reckon

/-- The five binary operators. -/
inductive Operator where
  | add
  | sub
  | mul
  | div
  | pow
  deriving DecidableEq, Repr

namespace Operator

/-- How tightly an operator binds. -/
def precedence : Operator → Nat
  | add => 1
  | sub => 1
  | mul => 2
  | div => 2
  | pow => 3

/-- The name of an operator as it stands in an outline of a tree. -/
def name : Operator → String
  | add => "Add"
  | sub => "Sub"
  | mul => "Mul"
  | div => "Div"
  | pow => "Pow"

end Operator

/-- What a token is. -/
inductive TokenKind where
  | number
  | operator (op : Operator)
  | openParen
  | closeParen
  | space
  deriving DecidableEq, Repr

/-- The name of a kind as it stands in listings and messages. -/
def TokenKind.name : TokenKind → String
  | number => "NUMBER"
  | operator .add => "ADD"
  | operator .sub => "SUB"
  | operator .mul => "MUL"
  | operator .div => "DIV"
  | operator .pow => "POW"
  | openParen => "LPAREN"
  | closeParen => "RPAREN"
  | space => "SPACE"

/-- A kind and the text that it stands for. -/
structure Token where
  kind : TokenKind
  text : String
  deriving DecidableEq, Repr

/-- A stretch of a source, from the first offset up to and without the second. -/
structure Span where
  start : Nat
  stop : Nat
  deriving DecidableEq, Repr

namespace Token

/-- Whether the token is an operator. -/
def isOperator (token : Token) : Bool :=
  match token.kind with
  | .operator _ => true
  | _ => false

/-- Whether the token is a run of blanks. -/
def isSpace (token : Token) : Bool := token.kind = .space

/-- The source that tokens make up. -/
def join (tokens : List Token) : String := String.join (tokens.map text)

/-- The number of characters that tokens make up. -/
def width (tokens : List Token) : Nat :=
  tokens.foldr (fun token rest => token.text.length + rest) 0

@[simp] theorem join_nil : join [] = "" := by simp [join]

@[simp] theorem join_cons (token : Token) (tokens : List Token) :
    join (token :: tokens) = token.text ++ join tokens := by
  simp [join]

@[simp] theorem join_append (front back : List Token) :
    join (front ++ back) = join front ++ join back := by
  simp [join]

@[simp] theorem width_nil : width [] = 0 := by simp [width]

@[simp] theorem width_cons (token : Token) (tokens : List Token) :
    width (token :: tokens) = token.text.length + width tokens := by
  simp [width]

@[simp] theorem width_append (front back : List Token) :
    width (front ++ back) = width front + width back := by
  induction front with
  | nil => simp
  | cons token rest ih => simp [ih, Nat.add_assoc]

/-- The width is the length of the source that tokens make up. -/
theorem length_join (tokens : List Token) : (join tokens).length = width tokens := by
  induction tokens with
  | nil => simp
  | cons token rest ih => simp [ih]

/-- The place in a list of `length` elements that an index names; a negative index counts
from the end. -/
def place? (length : Nat) (index : Int) : Option Nat :=
  if 0 ≤ index then if index < length then some index.toNat else none
  else if -index ≤ length then some (length - (-index).toNat) else none

/-- The span of the token at an index, with negative indices counted from the end. -/
def span? (tokens : List Token) (index : Int) : Option Span := do
  let place ← place? tokens.length index
  let token ← tokens[place]?
  some ⟨width (tokens.take place), width (tokens.take place) + token.text.length⟩

end Token

end Reckon
