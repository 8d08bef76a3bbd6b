import Reckon.Calculator
import Reckon.Proofs.Arrangement.Earliest
import Reckon.Proofs.Expr.Assembly
import Reckon.Proofs.Lexer.Lexeme

/-!
# Evaluation gives a value or a rejection

A calculator can fail in five ways, and only one of them is meant for the person who typed the
source.  With the arithmetic rules the other four do not occur, and each is excluded by what
the step before promises:

* no rule is broken, because the arithmetic rules keep what they owe (`tokenize_of_yields`);
* a misplacement that names a token names one that is there (`index_lt_of_check_error`);
* assembly never lacks an operand, a group or the value of a number, because the tokens are in
  order and their numbers are plain numerals (`exists_reads_of_check`, `exists_real?_of_isPlain`);
* the walk of the tree never lacks a value, and no operation is refused, because the guarded
  ones answer for every refusal (`exists_calculate`).
-/

namespace Reckon

/-! ## Values -/

/-- No operator refuses its operands. -/
theorem Operator.exists_apply (op : Operator) (a b : Binary64) :
    ∃ value, op.apply a b = .ok value := by
  cases op with
  | add => exact ⟨_, rfl⟩
  | sub => exact ⟨_, rfl⟩
  | mul => exact ⟨_, rfl⟩
  | div => exact ⟨_, Binary64.guardedDiv_eq a b⟩
  | pow => exact ⟨_, Binary64.guardedPower_eq a b⟩

namespace Expr

/-- A tree has a value where no operation is refused. -/
theorem exists_fold {apply : Operator → Binary64 → Binary64 → Except ArithmeticFault Binary64}
    (total : ∀ op a b, ∃ value, apply op a b = .ok value) (tree : Expr) :
    ∃ value, tree.fold apply = .ok value := by
  induction tree with
  | number value => exact ⟨value, rfl⟩
  | binary op left right ihLeft ihRight =>
    obtain ⟨a, hleft⟩ := ihLeft
    obtain ⟨b, hright⟩ := ihRight
    obtain ⟨value, applied⟩ := total op a b
    exact ⟨value, by simp only [fold, hleft, hright, bind, Except.bind, applied]⟩

/-- Every tree has a value. -/
theorem exists_calculate (tree : Expr) : ∃ value, tree.calculate = .ok value := by
  obtain ⟨value, folded⟩ := exists_fold Operator.exists_apply tree
  exact ⟨value, by rw [calculate, calculateWith_eq, folded]; rfl⟩

end Expr

/-! ## Places -/

/-- A token that is there has a span. -/
theorem Token.exists_span?_of_lt {tokens : List Token} {index : Nat} (h : index < tokens.length) :
    ∃ span, Token.span? tokens index = some span := by
  have place : Token.place? tokens.length index = some index := by
    rw [Token.place?, if_pos (Int.natCast_nonneg index), if_pos (Int.ofNat_lt.2 h)]
    rfl
  simp only [Token.span?, place, Option.bind_eq_bind, Option.bind_some,
    List.getElem?_eq_getElem h]
  exact ⟨_, rfl⟩

namespace Calculator

/-- A misplacement among the tokens of a source is answered by a rejection. -/
theorem exists_rejected_of_check_error {tokens : List Token} {fault : Misplacement}
    (h : Arrangement.check tokens = .error fault) (source : String) :
    ∃ rejection cause, failureOfArrangement source tokens fault = .rejected rejection cause := by
  unfold failureOfArrangement
  split
  · exact ⟨_, _, rfl⟩
  · next index place =>
    obtain ⟨span, found⟩ :=
      Token.exists_span?_of_lt (Arrangement.index_lt_of_check_error h place)
    rw [found]
    exact ⟨_, _, rfl⟩

/-! ## The steps in turn -/

/-- Parsing a source that is read goes on with its tokens. -/
theorem parse_of_tokenize {source : String} {tokens : List Token}
    (read : Reckon.tokenize arithmeticRules source = .ok tokens) :
    standard.parse source =
      (Arrangement.check tokens).mapError (failureOfArrangement source tokens) >>= fun _ =>
        (Expr.ofTokens tokens).mapError .unassembled := by
  rw [parse, tokenize, standard, read]
  rfl

/-- Numbers that are lexemes have values. -/
theorem numbersHaveValues_of_isLexeme {tokens : List Token}
    (h : ∀ token ∈ tokens, token.IsLexeme) : Expr.NumbersHaveValues tokens := by
  intro token mem kind
  have lexeme := h token mem
  rw [Token.IsLexeme, kind] at lexeme
  exact Numeral.exists_real?_of_isPlain lexeme

/-- Parsing gives a tree or a rejection. -/
theorem parse_standard_cases (source : String) :
    (∃ tree, standard.parse source = .ok tree) ∨
      ∃ rejection cause, standard.parse source = .error (.rejected rejection cause) := by
  rcases tokenize_of_yields yields_arithmeticRules source with
    ⟨tokens, lexed, lexemes⟩ | ⟨symbol, offset, unknown⟩
  · have read : standard.tokenize source = .ok tokens := by
      rw [tokenize, standard, lexed]
      rfl
    rw [parse, read]
    cases checked : Arrangement.check tokens with
    | error fault =>
      obtain ⟨rejection, cause, rejected⟩ := exists_rejected_of_check_error checked source
      refine .inr ⟨rejection, cause, ?_⟩
      rw [← rejected]
      simp only [bind, Except.bind, checked]
      rfl
    | ok _ =>
      obtain ⟨tree, reads⟩ := Assembly.exists_reads_of_check checked
        (numbersHaveValues_of_isLexeme lexemes)
      refine .inl ⟨tree, ?_⟩
      simp only [bind, Except.bind, checked, Assembly.ofTokens_of_reads reads]
      rfl
  · refine .inr ⟨⟨.unknownSymbol, offset, offset + 1, source, some (String.singleton symbol)⟩,
      .lexing (.unknownSymbol symbol offset), ?_⟩
    rw [parse, tokenize, standard, unknown]
    rfl

end Calculator

/-- **Evaluation gives a value or a rejection.**  Whatever the source, no rule is broken, no
misplacement is without its token, assembly and the walk of the tree find what they need on
their stacks, and no operation is refused. -/
theorem evaluate_eq_ok_or_rejected (source : String) :
    (∃ value, evaluate source = .ok value) ∨
      ∃ rejection cause, evaluate source = .error (.rejected rejection cause) := by
  rcases Calculator.parse_standard_cases source with
    ⟨tree, parsed⟩ | ⟨rejection, cause, rejected⟩
  · obtain ⟨value, calculated⟩ := tree.exists_calculate
    refine .inl ⟨value, ?_⟩
    rw [evaluate, Calculator.eval, parsed]
    simp only [bind, Except.bind, calculated]
    rfl
  · refine .inr ⟨rejection, cause, ?_⟩
    rw [evaluate, Calculator.eval, rejected]
    rfl

end Reckon
