import Reckon.Calculator
import Reckon.Proofs.Arrangement.Earliest
import Reckon.Proofs.Lexer.RoundTrip

/-!
# The place of a rejection

Tokens carry no positions.  A fault among them is an index, and the place of a rejection is found
again by summing the widths of the tokens before it.  `evaluate_rejected_place` says that this
place is right for every source: the part of the source between the two offsets is exactly the
lexeme to blame, which `Reason.Blames` describes for each reason, and a rejection without a place
says only what is true of the source as a whole.

A source comes to be rejected in three ways, which `Rejects` lists, and `evaluate_eq_rejected_iff`
shows that there are no others.  What is said of rejections is said by these cases.

## From tokens to characters

The check speaks of kinds and of tokens that are left open; the statement here speaks of the
characters of the source.  The two are joined by `Token.IsLexeme.kind_of_mem`: a character of a
lexeme, other than the point of a number, tells the kind of its token.  So parentheses occur only
as tokens of their own, and a stretch of the source has as many of them as the tokens that are
complete within it (`exists_prefix_of_join`).

A number is blamed as a whole because a numeral and what follows it, or comes before it, are never
read as two numbers (`WellSpelled.isWhole`).
-/

namespace Reckon

/-- The part of a source that a span covers. -/
def Span.text (span : Span) (source : String) : String :=
  String.ofList ((source.toList.take span.stop).drop span.start)

/-- Whether the part of a source that a span covers is not continued as a numeral: no digit and no
point stands directly before it or behind it. -/
def Span.IsWhole (span : Span) (source : String) : Prop :=
  (∀ c ∈ (source.toList.take span.start).getLast?, c.isDigit = false ∧ c ≠ '.') ∧
    ∀ c ∈ (source.toList.drop span.stop).head?, c.isDigit = false ∧ c ≠ '.'

/-- Whether the part of a source that a span covers is what a reason blames. -/
def Reason.Blames (reason : Reason) (source : String) (span : Span) : Prop :=
  match reason with
  | .unknownSymbol => (span.text source).length = 1
  | .adjacentOperators | .operatorAfterOpen | .leadingOperator | .trailingOperator =>
    span.text source ∈ ["+", "-", "*", "/", "^"]
  | .operatorBeforeClose | .emptyParens | .unbalanced => span.text source = ")"
  | .missingOperator =>
    span.text source = "(" ∨
      Numeral.IsPlain (span.text source).toList ∧ span.IsWhole source
  | .emptyExpression => False

/-- Whether a parenthesis of a text is left open: none of the closing ones behind it is its own. -/
def LeavesOpen (text : List Char) : Prop :=
  ∃ front back, text = front ++ '(' :: back ∧
    ∀ stretch, stretch <+: back → stretch.count ')' ≤ stretch.count '('

/-! ## Characters of lexemes -/

/-- A character of a lexeme tells the kind of its token, unless it is the point of a number. -/
theorem Token.IsLexeme.kind_of_mem {token : Token} (h : token.IsLexeme) {c : Char}
    (mem : c ∈ token.text.toList) :
    kindBeginningWith? c = some token.kind ∨ token.kind = .number ∧ c = '.' := by
  obtain ⟨kind, text⟩ := token
  cases kind with
  | number =>
    rcases Numeral.IsPlain.mem h mem with digit | point
    · exact .inl (kindBeginningWith?_eq_number_iff.2 digit)
    · exact .inr ⟨rfl, point⟩
  | operator op =>
    have spelled : text = op.symbol := h
    subst spelled
    left
    cases op <;> · rw [List.mem_singleton.1 mem]; rfl
  | openParen =>
    have spelled : text = "(" := h
    subst spelled
    rw [List.mem_singleton.1 mem]
    exact .inl rfl
  | closeParen =>
    have spelled : text = ")" := h
    subst spelled
    rw [List.mem_singleton.1 mem]
    exact .inl rfl
  | space =>
    have blank : ∀ c ∈ text.toList, c ∈ blanks.toList := h.2
    exact .inl (kindBeginningWith?_eq_space_iff.2 (blank c mem))

namespace Token

/-- Only a number has a character of a numeral in it. -/
theorem IsLexeme.not_numeral {token : Token} (h : token.IsLexeme) (other : token.kind ≠ .number)
    {c : Char} (mem : c ∈ token.text.toList) : c.isDigit = false ∧ c ≠ '.' := by
  rcases h.kind_of_mem mem with tells | ⟨number, _⟩
  · constructor
    · rw [Bool.eq_false_iff]
      intro digit
      have number := kindBeginningWith?_eq_number_iff.2 digit
      exact other (Option.some.inj (tells.symm.trans number))
    · rintro rfl
      have nothing : kindBeginningWith? '.' = none := rfl
      exact absurd (nothing.symm.trans tells) (by simp)
  · exact absurd number other

/-- A character that tells a kind of one character occurs in the lexemes of this kind only. -/
theorem IsLexeme.count_eq {token : Token} (h : token.IsLexeme) {c : Char} {kind : TokenKind}
    (tells : kindBeginningWith? c = some kind)
    (single : token.kind = kind → token.text = String.singleton c) :
    token.text.toList.count c = if token.kind = kind then 1 else 0 := by
  split
  · next same =>
    rw [single same, String.toList_singleton, List.count_singleton_self]
  · next other =>
    refine List.count_eq_zero.2 fun mem => ?_
    rcases h.kind_of_mem mem with tells' | ⟨_, rfl⟩
    · exact other (Option.some.inj (tells'.symm.trans tells))
    · have nothing : kindBeginningWith? '.' = none := rfl
      exact absurd (nothing.symm.trans tells) (by simp)

theorem IsLexeme.text_of_openParen {token : Token} (h : token.IsLexeme)
    (kind : token.kind = .openParen) : token.text = "(" := by
  rwa [IsLexeme, kind] at h

theorem IsLexeme.text_of_closeParen {token : Token} (h : token.IsLexeme)
    (kind : token.kind = .closeParen) : token.text = ")" := by
  rwa [IsLexeme, kind] at h

theorem IsLexeme.count_openParen {token : Token} (h : token.IsLexeme) :
    token.text.toList.count '(' = if token.kind = .openParen then 1 else 0 :=
  h.count_eq rfl h.text_of_openParen

theorem IsLexeme.count_closeParen {token : Token} (h : token.IsLexeme) :
    token.text.toList.count ')' = if token.kind = .closeParen then 1 else 0 :=
  h.count_eq rfl h.text_of_closeParen

/-- A beginning of a lexeme has the parentheses of the whole lexeme, or none. -/
theorem IsLexeme.count_of_prefix {token : Token} (h : token.IsLexeme) {stretch : List Char}
    (begins : stretch <+: token.text.toList) :
    stretch = token.text.toList ∨ stretch.count '(' = 0 ∧ stretch.count ')' = 0 := by
  by_cases single : token.text.length ≤ 1
  · by_cases empty : stretch = []
    · exact .inr (by simp [empty])
    · refine .inl (begins.eq_of_length_le ?_)
      rw [String.length_toList]
      have := List.length_pos_iff.2 empty
      omega
  · have zero {c : Char} {kind : TokenKind}
        (count : token.text.toList.count c = if token.kind = kind then 1 else 0)
        (text : token.kind = kind → token.text = String.singleton c) : stretch.count c = 0 := by
      have le := begins.sublist.count_le c
      split at count
      · next same =>
        rw [text same, String.length_singleton] at single
        exact absurd (Nat.le_refl 1) single
      · omega
    exact .inr ⟨zero h.count_openParen h.text_of_openParen,
      zero h.count_closeParen h.text_of_closeParen⟩

/-- A beginning of what lexemes make up has the parentheses of the tokens complete within it. -/
theorem exists_prefix_of_join {tokens : List Token} (lexemes : ∀ token ∈ tokens, token.IsLexeme)
    {stretch : List Char} (begins : stretch <+: (join tokens).toList) :
    ∃ part, part <+: tokens ∧ stretch.count '(' = openings part ∧
      stretch.count ')' = closings part := by
  induction tokens generalizing stretch with
  | nil =>
    rw [join_nil, String.toList_empty, List.prefix_nil] at begins
    subst begins
    exact ⟨[], List.prefix_refl _, rfl, rfl⟩
  | cons token rest ih =>
    obtain ⟨lexeme, others⟩ := List.forall_mem_cons.1 lexemes
    rw [join_cons, String.toList_append] at begins
    have whole {more : List Char} (behind : more <+: (join rest).toList)
        (same : stretch = token.text.toList ++ more) :
        ∃ part, part <+: token :: rest ∧ stretch.count '(' = openings part ∧
          stretch.count ')' = closings part := by
      obtain ⟨part, within, opened, closed⟩ := ih others behind
      refine ⟨token :: part, (List.prefix_cons_inj token).2 within, ?_, ?_⟩
      · rw [same, List.count_append, lexeme.count_openParen, opened, openings_cons, Nat.add_comm]
      · rw [same, List.count_append, lexeme.count_closeParen, closed, closings_cons, Nat.add_comm]
    rcases List.prefix_or_prefix_of_prefix begins (List.prefix_append _ _) with
      inside | ⟨more, same⟩
    · rcases lexeme.count_of_prefix inside with same | ⟨opened, closed⟩
      · exact whole List.nil_prefix (by rw [same, List.append_nil])
      · exact ⟨[], List.nil_prefix, opened, closed⟩
    · rw [← same, List.prefix_append_right_inj] at begins
      exact whole begins same.symm

/-- A parenthesis that is left open among lexemes is left open in the source they make up. -/
theorem LeftOpen.leavesOpen {tokens : List Token} (lexemes : ∀ token ∈ tokens, token.IsLexeme)
    (h : LeftOpen tokens) : LeavesOpen (join tokens).toList := by
  obtain ⟨front, token, back, rfl, kind, never⟩ := h
  have behind : ∀ other ∈ back, other.IsLexeme := fun other mem =>
    lexemes other (List.mem_append_right _ (List.mem_cons_of_mem _ mem))
  have text : token.text = "(" :=
    (lexemes token (List.mem_append_right _ (List.mem_cons_self ..))).text_of_openParen kind
  refine ⟨(join front).toList, (join back).toList, ?_, ?_⟩
  · rw [join_append, join_cons, text, String.toList_append, String.toList_append]
    rfl
  · intro stretch begins
    obtain ⟨part, within, opened, closed⟩ := exists_prefix_of_join behind begins
    rw [opened, closed]
    exact never part within

/-- A character of what tokens make up is a character of one of them. -/
theorem mem_join_iff {tokens : List Token} {c : Char} :
    c ∈ (join tokens).toList ↔ ∃ token ∈ tokens, c ∈ token.text.toList := by
  induction tokens with
  | nil => simp
  | cons token rest ih => simp [ih]

/-! ## Spans of tokens -/

/-- The span of a token that stands behind others. -/
def spanBehind (front : List Token) (token : Token) : Span :=
  ⟨width front, width front + token.text.length⟩

theorem span?_eq {tokens front back : List Token} {token : Token}
    (split : tokens = front ++ token :: back) :
    span? tokens front.length = some (spanBehind front token) := by
  subst split
  have place : place? (front ++ token :: back).length front.length = some front.length := by
    have within : (front.length : Int) < (front ++ token :: back).length := by
      rw [List.length_append, List.length_cons]
      omega
    rw [place?, if_pos (Int.natCast_nonneg _), if_pos within]
    rfl
  have here : (front ++ token :: back)[front.length]? = some token := by
    rw [List.getElem?_append_right (Nat.le_refl _), Nat.sub_self]
    rfl
  simp only [span?, place, here, Option.bind_eq_bind, Option.bind_some, List.take_left]
  rfl

theorem take_width_join (front back : List Token) :
    (join (front ++ back)).toList.take (width front) = (join front).toList := by
  rw [join_append, String.toList_append, ← length_join, ← String.length_toList, List.take_left]

theorem drop_width_join (front back : List Token) :
    (join (front ++ back)).toList.drop (width front) = (join back).toList := by
  rw [join_append, String.toList_append, ← length_join, ← String.length_toList, List.drop_left]

theorem stop_spanBehind (front : List Token) (token : Token) :
    (spanBehind front token).stop = width (front ++ [token]) := by
  simp [spanBehind]

/-- The span of a token covers its text. -/
theorem text_spanBehind (front back : List Token) (token : Token) :
    (spanBehind front token).text (join (front ++ token :: back)) = token.text := by
  rw [Span.text, stop_spanBehind, List.append_cons front token back, take_width_join, spanBehind,
    drop_width_join, join_cons, join_nil, String.append_empty, String.ofList_toList]

theorem WellSpelled.of_append_right {front back : List Token}
    (h : WellSpelled (front ++ back)) : WellSpelled back :=
  ⟨fun token mem => h.lexeme token (List.mem_append_right _ mem),
    (List.isChain_append.1 h.apart).2.1⟩

theorem WellSpelled.isLexeme {front back : List Token} {token : Token}
    (h : WellSpelled (front ++ token :: back)) : token.IsLexeme :=
  h.lexeme token (List.mem_append_right _ (List.mem_cons_self ..))

/-- A number among tokens is not continued on either side. -/
theorem WellSpelled.isWhole {front back : List Token} {token : Token}
    (h : WellSpelled (front ++ token :: back)) (number : token.kind = .number) :
    (spanBehind front token).IsWhole (join (front ++ token :: back)) := by
  constructor
  · intro c last
    rw [spanBehind, take_width_join] at last
    cases front using List.reverseRecOn with
    | nil => exact absurd last (by simp)
    | append_singleton init neighbour =>
      have mem : neighbour ∈ init ++ [neighbour] ++ token :: back := by simp
      have lexeme := h.lexeme neighbour mem
      have apart : neighbour.Apart token :=
        (List.isChain_append.1 h.apart).2.2 neighbour (by simp) token rfl
      rw [join_append, join_cons, join_nil, String.append_empty, String.toList_append,
        List.getLast?_append_of_ne_nil _ lexeme.toList_ne_nil] at last
      exact lexeme.not_numeral (fun same => apart.1 ⟨same, number⟩) (List.mem_of_mem_getLast? last)
  · intro c first
    rw [stop_spanBehind, List.append_cons front token back, drop_width_join] at first
    exact (h.of_append_right.endsBefore c first).1 number

end Token

/-! ## Which lexeme a reason blames -/

/-- Whether tokens of a kind are what a reason is about. -/
def Reason.Concerns (reason : Reason) (kind : TokenKind) : Prop :=
  match reason with
  | .operatorBeforeClose | .emptyParens | .unbalanced => kind = .closeParen
  | .adjacentOperators | .operatorAfterOpen | .leadingOperator | .trailingOperator =>
    ∃ op, kind = .operator op
  | .missingOperator => kind = .openParen ∨ kind = .number
  | .unknownSymbol | .emptyExpression => False

theorem Operator.symbol_mem (op : Operator) : op.symbol ∈ ["+", "-", "*", "/", "^"] := by
  cases op <;> decide

namespace Arrangement

theorem concerns_of_flaw? {depth : Nat} {before : Option TokenKind} {kind : TokenKind}
    {reason : Reason} (h : flaw? depth before kind = some reason) : reason.Concerns kind := by
  unfold flaw? at h
  split at h
  case h_2 => split_ifs at h <;> cases h <;> rfl
  all_goals cases h
  case h_1 => rfl
  case h_6 => exact .inr rfl
  case h_7 => exact .inr rfl
  case h_8 => exact .inl rfl
  all_goals exact ⟨_, rfl⟩

/-- A fault that shows at a token is about tokens of its kind. -/
theorem concerns_of_check_error {front back : List Token} {token : Token} {fault : Misplacement}
    (h : check (front ++ token :: back) = .error fault) (place : fault.index = some front.length) :
    fault.reason.Concerns token.kind := by
  rcases check_error_cases h with
    ⟨front', token', back', reached, same, _, _, flaw, place'⟩ | ⟨reached, scanned, last⟩
  · have length : front.length = front'.length := Option.some.inj (place.symm.trans place')
    obtain ⟨-, same'⟩ := List.append_inj same length
    cases same'
    exact concerns_of_flaw? flaw
  · rcases finish_error_cases last with ⟨_, rfl⟩ | ⟨_, _, rfl⟩ | ⟨_, op, index, trailing, rfl⟩
    · exact absurd place (by simp)
    · exact absurd place (by simp)
    · obtain ⟨front', token', back', same, kind, index', -⟩ :=
        exists_of_last_eq_some scanned trailing
      have length : front.length = front'.length :=
        (Option.some.inj place).symm.trans index'
      obtain ⟨-, same'⟩ := List.append_inj same length
      cases same'
      exact ⟨op, kind⟩

end Arrangement

/-- What a reason is about is what it blames. -/
theorem Reason.Concerns.blames {reason : Reason} {front back : List Token} {token : Token}
    (h : reason.Concerns token.kind) (spelled : Token.WellSpelled (front ++ token :: back)) :
    reason.Blames (Token.join (front ++ token :: back)) (Token.spanBehind front token) := by
  have lexeme := spelled.isLexeme
  have text := Token.text_spanBehind front back token
  have closes (kind : token.kind = .closeParen) :
      (Token.spanBehind front token).text (Token.join (front ++ token :: back)) = ")" :=
    text.trans (lexeme.text_of_closeParen kind)
  have operates (kind : ∃ op, token.kind = .operator op) :
      (Token.spanBehind front token).text (Token.join (front ++ token :: back)) ∈
        ["+", "-", "*", "/", "^"] := by
    obtain ⟨op, kind⟩ := kind
    rw [Token.IsLexeme, kind] at lexeme
    rw [text, show token.text = op.symbol from lexeme]
    exact op.symbol_mem
  cases reason with
  | unknownSymbol => exact absurd h id
  | emptyExpression => exact absurd h id
  | operatorBeforeClose => exact closes h
  | emptyParens => exact closes h
  | unbalanced => exact closes h
  | adjacentOperators => exact operates h
  | operatorAfterOpen => exact operates h
  | leadingOperator => exact operates h
  | trailingOperator => exact operates h
  | missingOperator =>
    rcases h with kind | kind
    · exact .inl (text.trans (lexeme.text_of_openParen kind))
    · refine .inr ⟨?_, spelled.isWhole kind⟩
      rw [Token.IsLexeme, kind] at lexeme
      rw [text]
      exact lexeme

/-! ## How a source is rejected -/

/-- How a source comes to be rejected: it has a symbol that no rule reads, or it is made up of well
spelled tokens with a fault among them, which shows at none or at one of them. -/
inductive Rejects : String → Rejection → Cause → Prop where
  | unknownSymbol {source : String} {symbol : Char} {offset : Nat}
      (unknown : tokenize arithmeticRules source = .error (.unknownSymbol symbol offset)) :
      Rejects source
        ⟨.unknownSymbol, offset, offset + 1, source, some (String.singleton symbol)⟩
        (.lexing (.unknownSymbol symbol offset))
  | unplaced {tokens : List Token} {fault : Misplacement} (spelled : Token.WellSpelled tokens)
      (checked : Arrangement.check tokens = .error fault) (place : fault.index = none) :
      Rejects (Token.join tokens) ⟨fault.reason, -1, -1, Token.join tokens, none⟩
        (.arrangement fault)
  | placed {front back : List Token} {token : Token} {fault : Misplacement}
      (spelled : Token.WellSpelled (front ++ token :: back))
      (checked : Arrangement.check (front ++ token :: back) = .error fault)
      (place : fault.index = some front.length) :
      Rejects (Token.join (front ++ token :: back))
        ⟨fault.reason, (Token.spanBehind front token).start, (Token.spanBehind front token).stop,
          Token.join (front ++ token :: back), none⟩
        (.arrangement fault)

/-- A list is what stands before one of its items, the item, and what stands behind it. -/
theorem exists_split_of_getElem? {α : Type} {items : List α} {index : Nat} {item : α}
    (here : items[index]? = some item) :
    ∃ front back, items = front ++ item :: back ∧ front.length = index := by
  obtain ⟨within, rfl⟩ := List.getElem?_eq_some_iff.1 here
  refine ⟨items.take index, items.drop (index + 1), ?_,
    List.length_take_of_le (Nat.le_of_lt within)⟩
  rw [← List.drop_eq_getElem_cons within, List.take_append_drop]

/-- A fault that shows at a token parts the tokens there. -/
theorem Arrangement.exists_split_of_check_error {tokens : List Token} {fault : Misplacement}
    {index : Nat} (checked : check tokens = .error fault) (place : fault.index = some index) :
    ∃ front token back, tokens = front ++ token :: back ∧ index = front.length := by
  have within := index_lt_of_check_error checked place
  obtain ⟨front, back, split, length⟩ :=
    exists_split_of_getElem? (List.getElem?_eq_getElem within)
  exact ⟨front, tokens[index], back, split, length.symm⟩

namespace Calculator

theorem failureOfArrangement_of_none {fault : Misplacement} (place : fault.index = none)
    (source : String) (tokens : List Token) :
    failureOfArrangement source tokens fault =
      .rejected ⟨fault.reason, -1, -1, source, none⟩ (.arrangement fault) := by
  rw [failureOfArrangement, place]

theorem failureOfArrangement_of_some {fault : Misplacement} {front : List Token}
    (place : fault.index = some front.length) (source : String) (token : Token)
    (back : List Token) :
    failureOfArrangement source (front ++ token :: back) fault =
      .rejected ⟨fault.reason, (Token.spanBehind front token).start,
        (Token.spanBehind front token).stop, source, none⟩ (.arrangement fault) := by
  rw [failureOfArrangement, place]
  simp only [Token.span?_eq rfl]

/-- A source is rejected by the first two steps only. -/
theorem eval_rejected_cases {calculator : Calculator} {source : String} {rejection : Rejection}
    {cause : Cause} (h : calculator.eval source = .error (.rejected rejection cause)) :
    (∃ symbol offset, Reckon.tokenize calculator.rules source =
        .error (.unknownSymbol symbol offset) ∧
      failureOfLexing source (.unknownSymbol symbol offset) = .rejected rejection cause) ∨
    ∃ tokens fault, Reckon.tokenize calculator.rules source = .ok tokens ∧
      Arrangement.check tokens = .error fault ∧
      failureOfArrangement source tokens fault = .rejected rejection cause := by
  rw [eval, parse, tokenize] at h
  cases read : Reckon.tokenize calculator.rules source with
  | error fault =>
    rw [read] at h
    have failed : failureOfLexing source fault = .rejected rejection cause := Except.error.inj h
    cases fault with
    | unknownSymbol symbol offset => exact .inl ⟨symbol, offset, rfl, failed⟩
    | brokenRule kind breach offset => exact absurd failed (by simp [failureOfLexing])
    | outOfRange kind offset => exact absurd failed (by simp [failureOfLexing])
  | ok tokens =>
    rw [read] at h
    cases checked : Arrangement.check tokens with
    | error fault =>
      simp only [bind, Except.bind, Except.mapError, checked] at h
      exact .inr ⟨tokens, fault, rfl, checked, Except.error.inj h⟩
    | ok _ =>
      simp only [bind, Except.bind, Except.mapError, checked] at h
      cases assembled : Expr.ofTokens tokens with
      | error fault =>
        rw [assembled] at h
        exact absurd (Except.error.inj h) (by simp)
      | ok tree =>
        simp only [assembled] at h
        cases computed : tree.calculate with
        | error fault =>
          rw [computed] at h
          exact absurd (Except.error.inj h) (by simp)
        | ok value =>
          rw [computed] at h
          exact absurd h (by simp)

/-- Tokens that are not in order have the source rejected. -/
theorem eval_eq_of_check_error {calculator : Calculator} {source : String} {tokens : List Token}
    {fault : Misplacement} (read : Reckon.tokenize calculator.rules source = .ok tokens)
    (checked : Arrangement.check tokens = .error fault) :
    calculator.eval source = .error (failureOfArrangement source tokens fault) := by
  rw [eval, parse, tokenize, read]
  simp only [bind, Except.bind, Except.mapError, checked]

end Calculator

/-- **The three ways are all there are.** -/
theorem evaluate_eq_rejected_iff {source : String} {rejection : Rejection} {cause : Cause} :
    evaluate source = .error (.rejected rejection cause) ↔ Rejects source rejection cause := by
  constructor
  · intro h
    rcases Calculator.eval_rejected_cases h with
      ⟨symbol, offset, unknown, failed⟩ | ⟨tokens, fault, read, checked, failed⟩
    · cases failed
      exact .unknownSymbol unknown
    · obtain ⟨spelled, rfl⟩ := tokenize_arithmeticRules_eq_ok_iff.1 read
      cases place : fault.index with
      | none =>
        rw [Calculator.failureOfArrangement_of_none place] at failed
        cases failed
        exact .unplaced spelled checked place
      | some index =>
        obtain ⟨front, token, back, rfl, rfl⟩ :=
          Arrangement.exists_split_of_check_error checked place
        rw [Calculator.failureOfArrangement_of_some place] at failed
        cases failed
        exact .placed spelled checked place
  · intro h
    cases h with
    | unknownSymbol unknown =>
      rw [evaluate, Calculator.eval, Calculator.parse, Calculator.tokenize, Calculator.standard,
        unknown]
      rfl
    | unplaced spelled checked place =>
      have read := tokenize_arithmeticRules_eq_ok_iff.2 ⟨spelled, rfl⟩
      rw [← Calculator.failureOfArrangement_of_none place]
      exact Calculator.eval_eq_of_check_error read checked
    | placed spelled checked place =>
      have read := tokenize_arithmeticRules_eq_ok_iff.2 ⟨spelled, rfl⟩
      rw [← Calculator.failureOfArrangement_of_some place]
      exact Calculator.eval_eq_of_check_error read checked

/-- A text is read into tokens, or has a symbol that no rule reads. -/
theorem tokens_or_unknownSymbol (text : String) :
    (∃ tokens, Token.WellSpelled tokens ∧ Token.join tokens = text) ∨
      ∃ rejection cause, evaluate text = .error (.rejected rejection cause) ∧
        rejection.reason = .unknownSymbol := by
  rcases tokenize_of_yields yields_arithmeticRules text with
    ⟨tokens, read, _⟩ | ⟨symbol, offset, unknown⟩
  · exact .inl ⟨tokens, tokenize_arithmeticRules_eq_ok_iff.1 read⟩
  · exact .inr ⟨_, _, evaluate_eq_rejected_iff.2 (.unknownSymbol unknown), rfl⟩

/-- A text with a character that no lexeme has is rejected. -/
theorem exists_rejected_of_mem {text : String} {c : Char} (mem : c ∈ text.toList)
    (unknown : kindBeginningWith? c = none) (point : c ≠ '.') :
    ∃ rejection cause, evaluate text = .error (.rejected rejection cause) ∧
      rejection.reason = .unknownSymbol := by
  refine (tokens_or_unknownSymbol text).resolve_left ?_
  rintro ⟨tokens, spelled, rfl⟩
  obtain ⟨token, here, inside⟩ := Token.mem_join_iff.1 mem
  rcases (spelled.lexeme token here).kind_of_mem inside with tells | ⟨_, same⟩
  · exact absurd (unknown.symm.trans tells) (by simp)
  · exact absurd same point

/-! ## The main statement -/

/-- What a rejection without a place says: both offsets are minus one, and a parenthesis of the
source is left open or there are only blanks in it. -/
structure Rejection.IsUnplaced (rejection : Rejection) : Prop where
  start : rejection.start = -1
  stop : rejection.stop = -1
  reason : rejection.reason = .unbalanced ∧ LeavesOpen rejection.source.toList ∨
    rejection.reason = .emptyExpression ∧ ∀ c ∈ rejection.source.toList, c ∈ blanks.toList

/-- What a rejection with a place says: the two offsets are those of a span within the source, which
is not empty and covers what the reason blames.  An unknown symbol is named, and nothing else. -/
structure Rejection.Covers (rejection : Rejection) (span : Span) : Prop where
  start : rejection.start = span.start
  stop : rejection.stop = span.stop
  some_text : span.start < span.stop
  within : span.stop ≤ rejection.source.length
  blames : rejection.reason.Blames rejection.source span
  symbol : rejection.symbol =
    if rejection.reason = .unknownSymbol then some (span.text rejection.source) else none

/-- Whether a cause shows at a part of a source: the symbol that no rule reads begins there, or the
token that is misplaced stands there. -/
def Cause.ShowsAt (cause : Cause) (source : String) (span : Span) : Prop :=
  match cause with
  | .lexing fault => tokenize arithmeticRules source = .error fault ∧
      ∃ symbol, fault = .unknownSymbol symbol span.start
  | .arrangement fault => ∃ front token back,
      tokenize arithmeticRules source = .ok (front ++ token :: back) ∧
      Arrangement.check (front ++ token :: back) = .error fault ∧
      fault.index = some front.length ∧ span = Token.spanBehind front token

/-- A symbol that no rule reads is covered as one character. -/
theorem covers_of_unknownSymbol {source : String} {symbol : Char} {offset : Nat}
    (here : source.toList[offset]? = some symbol) :
    Rejection.Covers
      ⟨.unknownSymbol, offset, offset + 1, source, some (String.singleton symbol)⟩
      ⟨offset, offset + 1⟩ := by
  obtain ⟨within, found⟩ := List.getElem?_eq_some_iff.1 here
  have text : Span.text ⟨offset, offset + 1⟩ source = String.singleton symbol := by
    rw [Span.text, List.drop_take, Nat.add_sub_cancel_left, List.drop_eq_getElem_cons within, found]
    rfl
  refine ⟨rfl, rfl, Nat.lt_succ_self offset, ?_, ?_, ?_⟩
  · rw [← String.length_toList]
    exact within
  · show (Span.text ⟨offset, offset + 1⟩ source).length = 1
    rw [text, String.length_singleton]
  · rw [if_pos rfl, text]

/-- A token that is misplaced is covered as a whole. -/
theorem covers_of_check_error {front back : List Token} {token : Token} {fault : Misplacement}
    (spelled : Token.WellSpelled (front ++ token :: back))
    (checked : Arrangement.check (front ++ token :: back) = .error fault)
    (place : fault.index = some front.length) :
    Rejection.Covers
      ⟨fault.reason, (Token.spanBehind front token).start, (Token.spanBehind front token).stop,
        Token.join (front ++ token :: back), none⟩
      (Token.spanBehind front token) := by
  have concerns := Arrangement.concerns_of_check_error checked place
  have known : fault.reason ≠ .unknownSymbol := by
    intro unknown
    rw [unknown] at concerns
    exact concerns
  have some_text : 0 < token.text.length := by
    rw [← String.length_toList]
    exact List.length_pos_iff.2 spelled.isLexeme.toList_ne_nil
  refine ⟨rfl, rfl, Nat.lt_add_of_pos_right some_text, ?_, concerns.blames spelled, ?_⟩
  · rw [Token.length_join, Token.width_append, Token.width_cons]
    show Token.width front + token.text.length ≤ _
    omega
  · rw [if_neg known]

/-- A fault without a token is true of the source as a whole. -/
theorem isUnplaced_of_check_error {tokens : List Token} {fault : Misplacement}
    (lexemes : ∀ token ∈ tokens, token.IsLexeme)
    (checked : Arrangement.check tokens = .error fault) (unplaced : fault.index = none) :
    Rejection.IsUnplaced ⟨fault.reason, -1, -1, Token.join tokens, none⟩ := by
  rcases Arrangement.check_error_cases checked with
    ⟨front, token, back, _, _, _, _, _, place⟩ | ⟨reached, scanned, last⟩
  · exact absurd (unplaced.symm.trans place) (by simp)
  · obtain ⟨reasons, opened, blank⟩ := Arrangement.finish_error_of_scan scanned last unplaced
    refine ⟨rfl, rfl, ?_⟩
    rcases reasons with unbalanced | empty
    · exact .inl ⟨unbalanced, (opened.1 unbalanced).leavesOpen lexemes⟩
    · refine .inr ⟨empty, fun c mem => ?_⟩
      obtain ⟨token, here, inside⟩ := Token.mem_join_iff.1 mem
      have kind := Token.isSpace_eq_true_iff.1 (blank.1 empty token here)
      have lexeme := lexemes token here
      rw [Token.IsLexeme, kind] at lexeme
      exact lexeme.2 c inside

/-- A rejection without a place has minus one for both offsets; any other lies within the source
and is not empty. -/
theorem Rejects.start_stop {source : String} {rejection : Rejection} {cause : Cause}
    (h : Rejects source rejection cause) :
    rejection.start = -1 ∧ rejection.stop = -1 ∨
      0 ≤ rejection.start ∧ rejection.start < rejection.stop ∧
        rejection.stop ≤ source.length := by
  have covered : ∀ {span : Span}, rejection.Covers span → 0 ≤ rejection.start ∧
      rejection.start < rejection.stop ∧ rejection.stop ≤ rejection.source.length := by
    intro span covers
    rw [covers.start, covers.stop]
    exact ⟨Int.natCast_nonneg _, Int.ofNat_lt.2 covers.some_text, Int.ofNat_le.2 covers.within⟩
  cases h with
  | unknownSymbol unknown =>
    obtain ⟨_, _, here, _⟩ := exists_finds_of_unknownSymbol unknown
    exact .inr (covered (covers_of_unknownSymbol here))
  | unplaced => exact .inl ⟨rfl, rfl⟩
  | placed spelled checked place =>
    exact .inr (covered (covers_of_check_error spelled checked place))

/-- **The place of a rejection is right.** -/
theorem evaluate_rejected_place {source : String} {rejection : Rejection} {cause : Cause}
    (h : evaluate source = .error (.rejected rejection cause)) :
    rejection.source = source ∧
      (rejection.reason ≠ .unknownSymbol → rejection.symbol = none) ∧
      (rejection.IsUnplaced ∨ ∃ span, rejection.Covers span ∧ cause.ShowsAt source span) := by
  cases evaluate_eq_rejected_iff.1 h with
  | @unknownSymbol _ symbol offset unknown =>
    obtain ⟨_, _, here, _⟩ := exists_finds_of_unknownSymbol unknown
    refine ⟨rfl, fun known => absurd rfl known, .inr ⟨⟨offset, offset + 1⟩, ?_, ?_⟩⟩
    · exact covers_of_unknownSymbol here
    · exact ⟨unknown, symbol, rfl⟩
  | unplaced spelled checked place =>
    exact ⟨rfl, fun _ => rfl, .inl (isUnplaced_of_check_error spelled.lexeme checked place)⟩
  | @placed front back token _ spelled checked place =>
    refine ⟨rfl, fun _ => rfl, .inr ⟨Token.spanBehind front token, ?_, ?_⟩⟩
    · exact covers_of_check_error spelled checked place
    · have read := tokenize_arithmeticRules_eq_ok_iff.2 ⟨spelled, rfl⟩
      exact ⟨front, token, back, read, checked, place, rfl⟩

/-- The second number of a group, behind blanks of two lines, is blamed as a whole. -/
theorem evaluate_rejected_place_number :
    evaluate "(12 \r\n 345)" = .error (.rejected
      ⟨.missingOperator, 7, 10, "(12 \r\n 345)", none⟩
      (.arrangement ⟨.missingOperator, some 3⟩)) ∧
    Rejection.Covers ⟨.missingOperator, 7, 10, "(12 \r\n 345)", none⟩ ⟨7, 10⟩ ∧
    Span.text ⟨7, 10⟩ "(12 \r\n 345)" = "345" := by
  have spelled : Token.WellSpelled [⟨.openParen, "("⟩, ⟨.number, "12"⟩, ⟨.space, " \r\n "⟩,
      ⟨.number, "345"⟩, ⟨.closeParen, ")"⟩] := by
    have first : Token.IsLexeme ⟨.number, "12"⟩ := .whole (by decide) (List.all_eq_true.1 rfl)
    have second : Token.IsLexeme ⟨.number, "345"⟩ := .whole (by decide) (List.all_eq_true.1 rfl)
    have inside : " \r\n ".toList ⊆ blanks.toList := by decide
    have between : Token.IsLexeme ⟨.space, " \r\n "⟩ := ⟨by decide, fun _ mem => inside mem⟩
    have opening : Token.IsLexeme ⟨.openParen, "("⟩ := rfl
    have closing : Token.IsLexeme ⟨.closeParen, ")"⟩ := rfl
    exact ⟨by simp [opening, first, between, second, closing], by simp [Token.Apart]⟩
  have read := tokenize_arithmeticRules_eq_ok_iff.2 ⟨spelled, rfl⟩
  have rejected : evaluate "(12 \r\n 345)" = .error (.rejected
      ⟨.missingOperator, 7, 10, "(12 \r\n 345)", none⟩
      (.arrangement ⟨.missingOperator, some 3⟩)) :=
    Calculator.eval_eq_of_check_error read rfl
  refine ⟨rejected, ?_, rfl⟩
  obtain ⟨-, -, unplaced | ⟨⟨start, stop⟩, covers, -⟩⟩ := evaluate_rejected_place rejected
  · exact absurd unplaced.start (by decide)
  · have start_eq : (7 : Int) = start := covers.start
    have stop_eq : (10 : Int) = stop := covers.stop
    have same : start = 7 ∧ stop = 10 := by omega
    obtain ⟨rfl, rfl⟩ := same
    exact covers

/-- A parenthesis alone is well spelled. -/
theorem Token.wellSpelled_closeParen : Token.WellSpelled [⟨.closeParen, ")"⟩] :=
  ⟨List.forall_mem_singleton.2 rfl, by simp⟩

/-- A parenthesis alone closes nothing. -/
theorem evaluate_closeParen : evaluate ")" = .error
    (.rejected ⟨.unbalanced, 0, 1, ")", none⟩ (.arrangement ⟨.unbalanced, some 0⟩)) := by
  have read := tokenize_arithmeticRules_eq_ok_iff.2 ⟨Token.wellSpelled_closeParen, rfl⟩
  exact Calculator.eval_eq_of_check_error read rfl

end Reckon
