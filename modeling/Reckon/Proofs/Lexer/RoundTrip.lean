import Mathlib.Data.List.Chain
import Mathlib.Data.List.Nodup
import Mathlib.Data.Set.Function
import Reckon.Proofs.Lexer.Beginning

/-!
# Joining and reading are inverse

Reading a source by the arithmetic rules and joining the tokens gives the source back, because
nothing is lost.  The other way round it depends on the tokens: `Token.WellSpelled` says that each
is spelled as its kind is spelled, and that no number follows a number and no blanks follow blanks.
These are exactly the token lists that reading gives.

* A list that reading gives is well spelled.  A rule finds lexemes only, and a run of digits or
  blanks is taken to its end, so what is found behind it begins with something else
  (`Finds.isChain_apart`).
* A well spelled list is read back.  What follows a token does not extend it
  (`EndsBefore.of_isChain`), so the rule of its kind decides and finds it, and so on behind it
  (`finds_of_wellSpelled`).

So the sources that are read and the well spelled lists correspond to each other one to one
(`tokenize_join_inverse`).
-/

namespace Reckon

namespace Token

/-- Whether two tokens may stand side by side: two numbers or two runs of blanks would be one. -/
def Apart (a b : Token) : Prop :=
  ¬(a.kind = .number ∧ b.kind = .number) ∧ ¬(a.kind = .space ∧ b.kind = .space)

/-- Whether tokens are spelled as their kinds are, and those side by side may stand so. -/
structure WellSpelled (tokens : List Token) : Prop where
  lexeme : ∀ token ∈ tokens, token.IsLexeme
  apart : tokens.IsChain Apart

/-- Behind a token of a well spelled list stands nothing that extends it. -/
theorem WellSpelled.endsBefore {token : Token} {rest : List Token}
    (h : WellSpelled (token :: rest)) : token.EndsBefore (join rest).toList := by
  cases rest with
  | nil =>
    intro c mem
    exact absurd mem (by simp)
  | cons next others =>
    obtain ⟨apart, -⟩ := List.isChain_cons_cons.1 h.apart
    have lexeme := h.lexeme next (List.mem_cons_of_mem _ (List.mem_cons_self ..))
    obtain ⟨d, more, begins, tells⟩ := lexeme.exists_cons
    intro c mem
    have same : d = c := by
      rw [join_cons, String.toList_append, begins] at mem
      exact Option.some.inj mem
    subst same
    have other {kind : TokenKind} (beginning : kindBeginningWith? d = some kind) :
        next.kind = kind := Option.some.inj (tells.symm.trans beginning)
    refine ⟨fun number => ⟨?_, ?_⟩, fun space blank => ?_⟩
    · rw [Bool.eq_false_iff]
      exact fun digit => apart.1 ⟨number, other (kindBeginningWith?_eq_number_iff.2 digit)⟩
    · rintro rfl
      have nothing : kindBeginningWith? '.' = none := rfl
      exact absurd (nothing.symm.trans tells) (by simp)
    · exact apart.2 ⟨space, other (kindBeginningWith?_eq_space_iff.2 blank)⟩

theorem WellSpelled.tail {token : Token} {rest : List Token} (h : WellSpelled (token :: rest)) :
    WellSpelled rest :=
  ⟨fun other mem => h.lexeme other (List.mem_cons_of_mem _ mem), (List.isChain_cons.1 h.apart).2⟩

end Token

namespace Lexer

variable {source : Array Char}

/-! ## Reading what was joined -/

/-- **Well spelled tokens are found where they stand.** -/
theorem finds_of_wellSpelled {tokens : List Token} (h : Token.WellSpelled tokens) {offset : Nat}
    (ahead : (Cursor.begin source offset).rest = (Token.join tokens).toList) :
    Finds arithmeticRules source offset tokens (offset + Token.width tokens) := by
  induction tokens generalizing offset with
  | nil => exact .nil offset
  | cons token rest ih =>
    have lexeme := h.lexeme token (List.mem_cons_self ..)
    rw [Token.join_cons, String.toList_append] at ahead
    obtain ⟨rule, kind, decides⟩ := decides_of_isLexeme lexeme h.endsBefore ahead
    have within : offset < source.size := by
      obtain ⟨c, here, _⟩ := kindBeginningWith?_of_run decides.mem decides.run
      exact (Array.getElem?_eq_some_iff.1 here).1
    obtain ⟨_, _, same, kept, _⟩ := exists_token_of_firstMatch yields_arithmeticRules
      (firstMatch_eq_some_iff.2 ⟨rule, rfl, decides⟩)
    cases same
    have behind := Cursor.rest_eq_of_append ahead
    rw [String.length_toList] at behind
    rw [Token.width_cons, ← Nat.add_assoc]
    exact .cons within decides kept (ih h.tail behind)

/-! ## Joining what was read -/

/-- What stands behind a run is outside its class. -/
theorem outside_of_readRun {cursor : Cursor} {inClass : Char → Bool} {c : Char}
    (h : c ∈ (cursor.readRun inClass).2.rest.head?) : inClass c = false := by
  rw [Cursor.rest_readRun, Option.mem_def] at h
  have outside := List.head?_dropWhile_not inClass cursor.rest
  rw [h] at outside
  simpa using outside

/-- What stands behind a number is no digit. -/
theorem not_isDigit_of_readNumber {cursor : Cursor} (some_text : cursor.readNumber.1 ≠ "")
    {c : Char} (h : c ∈ cursor.readNumber.2.rest.head?) : c.isDigit = false := by
  unfold Cursor.readNumber at some_text h
  dsimp only at some_text h
  by_cases none : (cursor.readRun Char.isDigit).1 = ""
  · rw [if_pos none] at some_text
    exact absurd rfl some_text
  · rw [if_neg none] at h
    split at h
    · exact outside_of_readRun h
    · exact outside_of_readRun h

/-- A rule for numbers or blanks takes them to their end. -/
theorem not_extended_of_run {rule : Rule} (mem : rule ∈ arithmeticRules) {offset : Nat}
    {token : Token} {after : Cursor}
    (run : rule.matcher.run (.begin source offset) = some (.token token after)) {c : Char}
    (behind : c ∈ after.rest.head?) :
    (rule.kind = .number → c.isDigit = false) ∧ (rule.kind = .space → c ∉ blanks.toList) := by
  constructor
  · intro number
    obtain ⟨some_text, -, rfl⟩ := readNumber_of_run mem number run
    exact not_isDigit_of_readNumber some_text behind
  · intro space
    obtain rfl : rule = ⟨.space, .charRun blanks .space⟩ :=
      List.inj_on_of_nodup_map nodup_kind_arithmeticRules mem (by simp [arithmeticRules]) space
    simp only [Matcher.charRun] at run
    split at run
    · exact absurd run (by simp)
    · cases Option.some.inj run
      simpa using outside_of_readRun behind

/-- Tokens that are found one behind the other may stand so. -/
theorem Finds.isChain_apart {offset stop : Nat} {tokens : List Token}
    (h : Finds arithmeticRules source offset tokens stop) : tokens.IsChain Token.Apart := by
  induction h with
  | nil => exact .nil
  | @cons offset stop rule token after tokens _ decides kept rest ih =>
    refine List.isChain_cons.2 ⟨fun next first => ?_, ih⟩
    cases rest with
    | nil => exact absurd first (by simp)
    | @cons _ _ rule' next' after' others _ decides' kept' _ =>
      cases Option.some.inj first
      obtain ⟨kind, -, -⟩ := breach?_eq_none_iff.1 kept
      obtain ⟨kind', -, -⟩ := breach?_eq_none_iff.1 kept'
      obtain ⟨c, here, tells⟩ := kindBeginningWith?_of_run decides'.mem decides'.run
      have behind : c ∈ after.rest.head? := by
        rw [Option.mem_def, Cursor.rest, List.head?_drop, decides.reaches.source]
        rw [← Array.getElem?_toList] at here
        exact here
      obtain ⟨no_digit, no_blank⟩ := not_extended_of_run decides.mem decides.run behind
      constructor
      · rintro ⟨number, number'⟩
        rw [← kind', number'] at tells
        have digit : c.isDigit = true := kindBeginningWith?_eq_number_iff.1 tells
        exact absurd (no_digit (kind.symm.trans number)) (by simp [digit])
      · rintro ⟨space, space'⟩
        rw [← kind', space'] at tells
        exact no_blank (kind.symm.trans space) (kindBeginningWith?_eq_space_iff.1 tells)

/-- Tokens that are found by rules with a property have the property. -/
theorem Finds.forall_of_yields {rules : List Rule} {Good : Token → Prop}
    (yields : ∀ rule ∈ rules, rule.Yields Good) {offset stop : Nat} {tokens : List Token}
    (h : Finds rules source offset tokens stop) : ∀ token ∈ tokens, Good token := by
  induction h with
  | nil => exact fun _ mem => absurd mem List.not_mem_nil
  | @cons _ _ rule token _ tokens _ decides _ _ ih =>
    obtain ⟨_, _, same, _, _, _, good⟩ := yields rule decides.mem _ _ _ decides.run
    cases same
    exact List.forall_mem_cons.2 ⟨good, ih⟩

/-- Tokens that are found one behind the other are well spelled. -/
theorem Finds.wellSpelled {offset stop : Nat} {tokens : List Token}
    (h : Finds arithmeticRules source offset tokens stop) : Token.WellSpelled tokens :=
  ⟨h.forall_of_yields yields_arithmeticRules, h.isChain_apart⟩

end Lexer

/-! ## The two together -/

/-- Reading gives tokens exactly where they are well spelled and make up the source. -/
theorem tokenize_arithmeticRules_eq_ok_iff {source : String} {tokens : List Token} :
    tokenize arithmeticRules source = .ok tokens ↔
      Token.WellSpelled tokens ∧ Token.join tokens = source := by
  constructor
  · intro h
    obtain ⟨stop, found, past⟩ := tokenize_eq_ok_iff.1 h
    exact ⟨found.wellSpelled, found.join_eq_of_le past⟩
  · rintro ⟨spelled, rfl⟩
    refine tokenize_eq_ok_iff.2 ⟨0 + Token.width tokens, Lexer.finds_of_wellSpelled spelled ?_, ?_⟩
    · rfl
    · rw [List.size_toArray, String.length_toList, Token.length_join, Nat.zero_add]

/-- **Joining and reading are inverse.**  Joined tokens are read back exactly if they are well
spelled, and tokens that are read join to their source; so joining takes the well spelled token
lists one to one onto the sources that are read. -/
theorem tokenize_join_inverse :
    (∀ tokens, tokenize arithmeticRules (Token.join tokens) = .ok tokens ↔
      Token.WellSpelled tokens) ∧
    (∀ source tokens, tokenize arithmeticRules source = .ok tokens →
      Token.join tokens = source) ∧
    Set.BijOn Token.join {tokens | Token.WellSpelled tokens}
      {source | ∃ tokens, tokenize arithmeticRules source = .ok tokens} := by
  refine ⟨fun tokens => ?_, fun source tokens read => ?_, ?_, ?_, ?_⟩
  · rw [tokenize_arithmeticRules_eq_ok_iff]
    exact and_iff_left rfl
  · exact (tokenize_arithmeticRules_eq_ok_iff.1 read).2
  · intro tokens spelled
    exact ⟨tokens, tokenize_arithmeticRules_eq_ok_iff.2 ⟨spelled, rfl⟩⟩
  · intro tokens spelled others spelled' same
    have read := tokenize_arithmeticRules_eq_ok_iff.2 ⟨spelled, rfl⟩
    have read' := tokenize_arithmeticRules_eq_ok_iff.2 ⟨spelled', same.symm⟩
    exact Except.ok.inj (read.symm.trans read')
  · rintro source ⟨tokens, read⟩
    exact ⟨tokens, tokenize_arithmeticRules_eq_ok_iff.1 read⟩

end Reckon
