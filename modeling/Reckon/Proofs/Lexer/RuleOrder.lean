import Reckon.Proofs.Lexer.Beginning

/-!
# The order of the rules

The lexer tries the rules of a table in order, and the first that does not pass decides.  If at most
one rule finds something at an offset, then there is no other for it to come before, and the table
might as well be in any other order (`Lexer.Exclusive.tokenize_of_perm`).  For this it also matters
that each rule reads from a fresh cursor: what one rule has read before it passes is nothing to the
next.

The arithmetic rules are of this kind, because they find tokens that begin with different characters
(`Lexer.exclusive_arithmeticRules`).
-/

namespace Reckon

namespace Lexer

variable {rules others : List Rule}

theorem Exclusive.of_perm (h : Exclusive rules) (perm : others.Perm rules) : Exclusive others :=
  fun rule mem other mem' => h rule (perm.mem_iff.1 mem) other (perm.mem_iff.1 mem')

/-- Which rule decides does not depend on the order. -/
theorem Exclusive.decides_of_perm (h : Exclusive rules) (perm : others.Perm rules)
    {source : Array Char} {offset : Nat} {rule : Rule} {found : Match} :
    Decides others source offset rule found ↔ Decides rules source offset rule found := by
  rw [h.decides_iff, (h.of_perm perm).decides_iff, perm.mem_iff]

/-- What the rules come to at an offset does not depend on the order. -/
theorem Exclusive.firstMatch_of_perm (h : Exclusive rules) (perm : others.Perm rules)
    (source : Array Char) (offset : Nat) :
    firstMatch others (.begin source offset) = firstMatch rules (.begin source offset) := by
  refine Option.ext fun ⟨kind, found⟩ => ?_
  rw [firstMatch_eq_some_iff, firstMatch_eq_some_iff]
  simp only [h.decides_of_perm perm]

/-- Tables that come to the same at every offset read the same tokens. -/
theorem tokensFrom_congr {source : Array Char}
    (same : ∀ offset, firstMatch others (.begin source offset) =
      firstMatch rules (.begin source offset)) (position : Nat) (found : List Token) :
    tokensFrom others source position found = tokensFrom rules source position found := by
  fun_induction tokensFrom rules source position found with
  | case1 position found within none =>
    rw [tokensFrom_turn, dif_pos within, same, none]
  | case2 position found within kind outside =>
    rw [tokensFrom_turn, dif_pos within, same, outside]
  | case3 position found within kind token after matched breach broken =>
    rw [tokensFrom_turn, dif_pos within, same, matched]
    dsimp only
    rw [broken]
  | case4 position found within kind token after matched kept ih =>
    rw [tokensFrom_turn, dif_pos within, same, matched]
    dsimp only
    rw [kept]
    exact ih
  | case5 position found past => rw [tokensFrom_turn, dif_neg past]

/-- **A table may be in any order**, if at most one of its rules finds something at an offset. -/
theorem Exclusive.tokenize_of_perm (h : Exclusive rules) (perm : others.Perm rules)
    (source : String) : tokenize others source = tokenize rules source :=
  tokensFrom_congr (h.firstMatch_of_perm perm _) 0 []

end Lexer

/-- **The arithmetic rules may be in any order.**  The same tokens are read, or the same symbol is
met at the same offset. -/
theorem tokenize_eq_of_perm_arithmeticRules {rules : List Rule} (perm : rules.Perm arithmeticRules)
    (source : String) :
    (∃ tokens, tokenize rules source = .ok tokens ∧ tokenize arithmeticRules source = .ok tokens) ∨
    ∃ symbol offset, tokenize rules source = .error (.unknownSymbol symbol offset) ∧
      tokenize arithmeticRules source = .error (.unknownSymbol symbol offset) := by
  rw [Lexer.exclusive_arithmeticRules.tokenize_of_perm perm]
  simp only [and_self]
  exact (tokenize_of_yields yields_arithmeticRules source).imp_left fun ⟨tokens, read, _⟩ =>
    ⟨tokens, read⟩

/-- Backwards, the table has the rule of numbers last. -/
theorem tokenize_eq_of_perm_arithmeticRules_reverse :
    arithmeticRules.reverse.Perm arithmeticRules ∧
      tokenize arithmeticRules.reverse "3. .5" = .error (.unknownSymbol '.' 3) := by
  have forwards : tokenize arithmeticRules "3. .5" = .error (.unknownSymbol '.' 3) := by
    decide +kernel
  refine ⟨List.reverse_perm _, ?_⟩
  obtain ⟨tokens, -, read⟩ | ⟨symbol, offset, backwards, met⟩ :=
    tokenize_eq_of_perm_arithmeticRules (List.reverse_perm _) "3. .5"
  · rw [forwards] at read
    cases read
  · rw [backwards, ← met, forwards]

end Reckon
