import Reckon.Token
import Reckon.Text.Quoted

/-!
# Listing tokens

A listing has one row for every token: the offset of the token in the source, its kind,
and its text in quotes, in columns.
-/

namespace Reckon

namespace Token

/-- A text with blanks in front up to a width. -/
def alignRight (width : Nat) (text : String) : String :=
  String.ofList (List.replicate (width - text.length) ' ') ++ text

/-- A text with blanks behind it up to a width. -/
def alignLeft (width : Nat) (text : String) : String :=
  text ++ String.ofList (List.replicate (width - text.length) ' ')

/-- The row of a token at an offset. -/
def row (offset : Nat) (token : Token) : String :=
  alignRight 4 (toString offset) ++ " " ++ alignLeft 7 token.kind.name ++ " "
    ++ quoted token.text ++ "\n"

/-- The rows of tokens, the first of which stands at an offset. -/
def rowsFrom (offset : Nat) : List Token → List String
  | [] => []
  | token :: rest => token.row offset :: rowsFrom (offset + token.text.length) rest

/-- The listing of tokens. -/
def listing (tokens : List Token) : String := String.join (rowsFrom 0 tokens)

end Token

end Reckon
