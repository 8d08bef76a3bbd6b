import Reckon.Lexer

/-!
# The arithmetic lexicon

Numbers, the five operators, the two parentheses, and runs of blanks.  Each kind begins
with characters that no other kind begins with, so the order of the rules does not
matter.
-/

namespace Reckon

/-- The characters that may stand between tokens. -/
def blanks : String := " \t\n\r"

/-- The rules for arithmetic expressions. -/
def arithmeticRules : List Rule := [
  ⟨.number, .number⟩,
  ⟨.operator .add, .oneChar "+" (.operator .add)⟩,
  ⟨.operator .sub, .oneChar "-" (.operator .sub)⟩,
  ⟨.operator .mul, .oneChar "*" (.operator .mul)⟩,
  ⟨.operator .div, .oneChar "/" (.operator .div)⟩,
  ⟨.operator .pow, .oneChar "^" (.operator .pow)⟩,
  ⟨.openParen, .oneChar "(" .openParen⟩,
  ⟨.closeParen, .oneChar ")" .closeParen⟩,
  ⟨.space, .charRun blanks .space⟩]

end Reckon
