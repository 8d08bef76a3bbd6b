import Reckon.Proofs.Lexer.Reading
import Reckon.Proofs.Numeral.Plain

/-!
# The arithmetic rules keep what they owe

A matcher may in general find a token of the wrong kind, read nothing, answer another text than
it read, or look before the beginning of the source, and the lexer then stops with a fault that
is nobody's typing.  `Rule.Yields` says that a rule does none of this, and that its tokens have
a property besides.  If it holds of every rule of a table, the lexer either reads the whole
source into tokens with the property, or meets a symbol that no rule reads
(`tokenize_of_yields`).

The nine arithmetic rules are of three sorts, and each sort is dealt with once.  The property
they are shown to have is that tokens are spelled as their kind is spelled, `Token.IsLexeme`.
-/

namespace Reckon

/-- The text that an operator is written with. -/
def Operator.symbol : Operator → String
  | add => "+"
  | sub => "-"
  | mul => "*"
  | div => "/"
  | pow => "^"

/-- Whether a token is spelled as its kind is spelled. -/
def Token.IsLexeme (token : Token) : Prop :=
  match token.kind with
  | .number => Numeral.IsPlain token.text.toList
  | .operator op => token.text = op.symbol
  | .openParen => token.text = "("
  | .closeParen => token.text = ")"
  | .space => token.text ≠ "" ∧ ∀ c ∈ token.text.toList, c ∈ blanks.toList

/-- Whether whatever a rule finds is a token with a property, of the kind that the rule is for,
whose text is all that was read and not empty. -/
def Rule.Yields (rule : Rule) (Good : Token → Prop) : Prop :=
  ∀ (source : Array Char) (position : Nat) (found : Match),
    rule.matcher.run (.begin source position) = some found →
      ∃ token after, found = .token token after ∧ token.kind = rule.kind ∧
        token.text = after.text ∧ token.text ≠ "" ∧ Good token

/-! ## The three sorts of rules -/

variable {Good : Token → Prop}

theorem yields_oneChar {want : String} {kind : TokenKind} (some_text : want ≠ "")
    (good : Good ⟨kind, want⟩) : Rule.Yields ⟨kind, .oneChar want kind⟩ Good := by
  intro source position found run
  simp only [Matcher.oneChar] at run
  split at run
  · next read =>
    cases Option.some.inj run
    refine ⟨_, _, rfl, rfl, ?_, some_text, good⟩
    rw [Cursor.text_readChar (Nat.le_refl position) read, Cursor.text_begin, String.empty_append]
  · exact absurd run (by simp)

theorem yields_charRun {characters : String} {kind : TokenKind}
    (good : ∀ text : String, text ≠ "" → (∀ c ∈ text.toList, c ∈ characters.toList) →
      Good ⟨kind, text⟩) : Rule.Yields ⟨kind, .charRun characters kind⟩ Good := by
  intro source position found run
  simp only [Matcher.charRun] at run
  split at run
  · exact absurd run (by simp)
  · next some_text =>
    cases Option.some.inj run
    refine ⟨_, _, rfl, rfl, ?_, some_text, good _ some_text ?_⟩
    · rw [Cursor.readWhile, Cursor.text_readRun (Nat.le_refl position), Cursor.text_begin,
        String.empty_append]
    · intro c mem
      exact List.contains_iff_mem.1 (Cursor.inClass_of_mem_readRun mem)

/-- What `readNumber` reads is a plain numeral. -/
theorem isPlain_readNumber {cursor : Cursor} (h : cursor.readNumber.1 ≠ "") :
    Numeral.IsPlain cursor.readNumber.1.toList := by
  have digits (other : Cursor) : ∀ c ∈ (other.readRun Char.isDigit).1.toList,
      c.isDigit = true := fun _ => Cursor.inClass_of_mem_readRun
  unfold Cursor.readNumber at h ⊢
  dsimp only at h ⊢
  split at h
  · exact absurd rfl h
  · next some_digit =>
    have some_digit' : (cursor.readRun Char.isDigit).1.toList ≠ [] := by
      rwa [Ne, String.toList_eq_nil_iff]
    rw [if_neg some_digit]
    split
    · rw [String.toList_append, String.toList_append, List.append_assoc]
      exact .pointed some_digit' (digits _) (digits _)
    · exact .whole some_digit' (digits _)

theorem yields_number (good : ∀ text : String, Numeral.IsPlain text.toList → Good ⟨.number, text⟩) :
    Rule.Yields ⟨.number, .number⟩ Good := by
  intro source position found run
  simp only [Matcher.number] at run
  split at run
  · exact absurd run (by simp)
  · next some_text =>
    cases Option.some.inj run
    refine ⟨_, _, rfl, rfl, ?_, some_text, good _ (isPlain_readNumber some_text)⟩
    rw [Cursor.text_readNumber (Nat.le_refl position), Cursor.text_begin, String.empty_append]

/-- The arithmetic rules find tokens that are spelled as their kind is. -/
theorem yields_arithmeticRules : ∀ rule ∈ arithmeticRules, rule.Yields Token.IsLexeme := by
  simp only [arithmeticRules, List.forall_mem_cons]
  refine ⟨yields_number fun _ plain => plain, ?_, ?_, ?_, ?_, ?_, ?_, ?_,
    yields_charRun fun _ some_text mem => ⟨some_text, mem⟩,
    fun _ mem => absurd mem List.not_mem_nil⟩
  all_goals exact yields_oneChar (by decide) rfl

/-! ## Tables of such rules -/

/-- A match of a table whose rules all yield is one that the lexer accepts. -/
theorem exists_token_of_firstMatch {rules : List Rule} (yields : ∀ rule ∈ rules, rule.Yields Good)
    {source : Array Char} {position : Nat} {kind : TokenKind} {found : Match}
    (h : Lexer.firstMatch rules (.begin source position) = some (kind, found)) :
    ∃ token after, found = .token token after ∧ Lexer.breach? kind token after = none ∧
      Good token := by
  obtain ⟨rule, mem, here⟩ := List.exists_of_findSome?_eq_some h
  obtain ⟨result, run, same⟩ := Option.map_eq_some_iff.1 here
  obtain ⟨rfl, rfl⟩ := Prod.mk.inj same
  obtain ⟨token, after, rfl, hkind, text, some_text, good⟩ := yields rule mem _ _ _ run
  refine ⟨token, after, rfl, ?_, good⟩
  have some_read : after.text ≠ "" := text ▸ some_text
  simp only [Lexer.breach?, hkind, ne_eq, not_true_eq_false, ↓reduceIte, some_read, text]

theorem tokensFrom_of_yields {rules : List Rule} (yields : ∀ rule ∈ rules, rule.Yields Good)
    (source : Array Char) (position : Nat) (found : List Token)
    (good : ∀ token ∈ found, Good token) :
    (∃ tokens, Lexer.tokensFrom rules source position found = .ok tokens ∧
      ∀ token ∈ tokens, Good token) ∨
    ∃ symbol offset,
      Lexer.tokensFrom rules source position found = .error (.unknownSymbol symbol offset) := by
  fun_induction Lexer.tokensFrom rules source position found with
  | case1 => exact .inr ⟨_, _, rfl⟩
  | case2 position found _ kind outside =>
    obtain ⟨_, _, token, _⟩ := exists_token_of_firstMatch yields outside
    exact absurd token (by simp)
  | case3 position found _ kind token after matched breach broken =>
    obtain ⟨_, _, same, kept, _⟩ := exists_token_of_firstMatch yields matched
    cases same
    exact absurd (broken.symm.trans kept) (by simp)
  | case4 position found _ kind token after matched _ ih =>
    obtain ⟨_, _, same, _, next⟩ := exists_token_of_firstMatch yields matched
    cases same
    exact ih (List.forall_mem_cons.2 ⟨next, good⟩)
  | case5 position found =>
    exact .inl ⟨found.reverse, rfl, fun token mem => good token (List.mem_reverse.1 mem)⟩

/-- **A table of such rules reads a source or meets an unknown symbol.** -/
theorem tokenize_of_yields {rules : List Rule} (yields : ∀ rule ∈ rules, rule.Yields Good)
    (source : String) :
    (∃ tokens, tokenize rules source = .ok tokens ∧ ∀ token ∈ tokens, Good token) ∨
    ∃ symbol offset, tokenize rules source = .error (.unknownSymbol symbol offset) :=
  tokensFrom_of_yields yields _ _ _ fun _ mem => absurd mem List.not_mem_nil

end Reckon
