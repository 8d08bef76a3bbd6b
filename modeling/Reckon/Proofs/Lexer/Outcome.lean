import Reckon.Proofs.Lexer.Reading

/-!
# What reading by a table of rules comes to

A matcher may read ahead and give up, answer another kind or another text than it read, read
nothing, or move past the end of the source.  The lexer still comes to one of three things,
whatever the table: tokens that make up the source, a symbol that every rule passes over, or a
rule that broke what it owes (`outcome_tokenize`).

## What carries the argument

`Finds` says that tokens are found one behind the other from an offset to another.  Every token
in it is the one that the first rule not to pass came to, and it was accepted.  So a token stands
for exactly the stretch that was read, and the stretches meet: `Finds.join_eq`.  Only the last of
them can go past the end of the source, because nothing is looked for behind the end, and a
stretch is cut off there.  Hence the offset of every token is the width of the tokens before it
(`Finds.width_eq`).

`tokensFrom_cases` is the one induction over the lexer's loop; it says that tokens are found up to
the offset at which the loop stops, and why it stops there.
-/

namespace Reckon

/-- How a breach describes a token that was found for a kind, and the cursor behind it: the first
to apply of another kind, nothing read, and another text than the one read. -/
def Breach.Describes (kind : TokenKind) (token : Token) (after : Cursor) : Breach → Prop
  | .otherKind returned => returned = token.kind ∧ token.kind ≠ kind
  | .nothingRead => token.kind = kind ∧ after.position = after.start
  | .otherText returned read =>
    token.kind = kind ∧ after.start < after.position ∧
      returned = token.text ∧ read = after.text ∧ token.text ≠ after.text

namespace Lexer

variable {rules : List Rule} {source : Array Char}

/-! ## The rule that decides -/

/-- Whether a rule decides at an offset, and what it comes to: it is the first rule of the table
that does not pass on a fresh cursor there. -/
def Decides (rules : List Rule) (source : Array Char) (offset : Nat) (rule : Rule)
    (found : Match) : Prop :=
  ∃ before behind, rules = before ++ rule :: behind ∧
    (∀ other ∈ before, other.matcher.run (.begin source offset) = none) ∧
    rule.matcher.run (.begin source offset) = some found

theorem firstMatch_eq_none_iff {cursor : Cursor} :
    firstMatch rules cursor = none ↔ ∀ rule ∈ rules, rule.matcher.run cursor = none := by
  simp only [firstMatch, List.findSome?_eq_none_iff, Option.map_eq_none_iff]

theorem firstMatch_eq_some_iff {offset : Nat} {kind : TokenKind} {found : Match} :
    firstMatch rules (.begin source offset) = some (kind, found) ↔
      ∃ rule, rule.kind = kind ∧ Decides rules source offset rule found := by
  simp only [firstMatch, List.findSome?_eq_some_iff, Option.map_eq_none_iff,
    Option.map_eq_some_iff, Prod.mk.injEq]
  constructor
  · rintro ⟨before, rule, behind, split, ⟨result, run, same, rfl⟩, passed⟩
    exact ⟨rule, same, before, behind, split, passed, run⟩
  · rintro ⟨rule, same, before, behind, split, passed, run⟩
    exact ⟨before, rule, behind, split, ⟨found, run, same, rfl⟩, passed⟩

namespace Decides

variable {offset : Nat} {rule : Rule} {token : Token} {after : Cursor}

theorem mem {found : Match} (h : Decides rules source offset rule found) : rule ∈ rules := by
  obtain ⟨before, behind, rfl, -⟩ := h
  exact List.mem_append_right _ (List.mem_cons_self ..)

theorem run {found : Match} (h : Decides rules source offset rule found) :
    rule.matcher.run (.begin source offset) = some found := by
  obtain ⟨_, _, _, _, run⟩ := h
  exact run

theorem reaches (h : Decides rules source offset rule (.token token after)) :
    (Cursor.begin source offset).Reaches after := rule.matcher.reaches h.run

/-- What was read is the stretch of the source from the offset to the position afterwards. -/
theorem text_eq (h : Decides rules source offset rule (.token token after)) :
    after.text = String.ofList (source.extract offset after.position).toList := by
  rw [Cursor.text, h.reaches.source, h.reaches.start]
  rfl

/-- Within the source, an empty text means that nothing was read. -/
theorem position_eq (h : Decides rules source offset rule (.token token after))
    (within : offset < source.size) (empty : after.text = "") :
    after.position = after.start := by
  have start : after.start = offset := h.reaches.start
  have moved : offset ≤ after.position := h.reaches.position
  rw [h.text_eq, String.ofList_eq_empty_iff, Array.toList_eq_nil_iff,
    Array.extract_eq_empty_iff] at empty
  omega

end Decides

/-- Whether at most one rule of a table finds something at an offset of a source, so that none comes
before another. -/
def Exclusive (rules : List Rule) : Prop :=
  ∀ rule ∈ rules, ∀ other ∈ rules, ∀ source offset found result,
    rule.matcher.run (.begin source offset) = some found →
      other.matcher.run (.begin source offset) = some result → rule = other

/-- Among rules of which at most one finds something, a rule that finds something decides. -/
theorem Exclusive.decides_iff (h : Exclusive rules) {offset : Nat} {rule : Rule} {found : Match} :
    Decides rules source offset rule found ↔
      rule ∈ rules ∧ rule.matcher.run (.begin source offset) = some found := by
  refine ⟨fun decides => ⟨decides.mem, decides.run⟩, fun ⟨mem, run⟩ => ?_⟩
  cases first : firstMatch rules (.begin source offset) with
  | none => exact absurd (run.symm.trans (firstMatch_eq_none_iff.1 first rule mem)) (by simp)
  | some result =>
    obtain ⟨other, -, decides⟩ := firstMatch_eq_some_iff.1 first
    obtain rfl := h rule mem other decides.mem source offset _ _ run decides.run
    cases run.symm.trans decides.run
    exact decides

/-! ## What a rule owes -/

theorem breach?_eq_none_iff {kind : TokenKind} {token : Token} {after : Cursor} :
    breach? kind token after = none ↔
      token.kind = kind ∧ token.text ≠ "" ∧ token.text = after.text := by
  unfold breach?
  split
  · simp_all
  · split
    · simp_all
    · split <;> simp_all

/-- The breach that the lexer reports is the one that is there. -/
theorem describes_of_breach? {offset : Nat} {rule : Rule} {token : Token} {after : Cursor}
    {breach : Breach} (within : offset < source.size)
    (decides : Decides rules source offset rule (.token token after))
    (h : breach? rule.kind token after = some breach) :
    breach.Describes rule.kind token after := by
  unfold breach? at h
  split at h
  · next other =>
    rw [← Option.some.inj h]
    exact ⟨rfl, other⟩
  · next same =>
    have kind : token.kind = rule.kind := Decidable.not_not.1 same
    split at h
    · next empty =>
      rw [← Option.some.inj h]
      exact ⟨kind, decides.position_eq within empty⟩
    · next some_text =>
      have moved : after.start < after.position := by
        refine Nat.lt_of_not_le fun stuck => some_text (Cursor.text_eq_empty stuck)
      split at h
      · next different =>
        rw [← Option.some.inj h]
        exact ⟨kind, moved, rfl, rfl, different⟩
      · exact absurd h (by simp)

/-! ## One turn of the loop -/

/-- What the loop does at a position is told by what the rules come to there. -/
theorem tokensFrom_turn (rules : List Rule) (source : Array Char) (position : Nat)
    (found : List Token) :
    tokensFrom rules source position found =
      if h : position < source.size then
        match firstMatch rules (.begin source position) with
        | none => .error (.unknownSymbol source[position] position)
        | some (kind, .outOfRange) => .error (.outOfRange kind position)
        | some (kind, .token token after) =>
          match breach? kind token after with
          | some breach => .error (.brokenRule kind breach position)
          | none => tokensFrom rules source after.position (token :: found)
      else .ok found.reverse := by
  rw [tokensFrom]
  split
  · split
    · next none => rw [none]
    · next outside => rw [outside]
    · next matched =>
      rw [matched]
      dsimp only
      split
      · next broken => rw [broken]
      · next kept => rw [kept]
  · rfl

/-! ## Tokens found one behind the other -/

/-- Whether tokens are found one behind the other from an offset to another: each by the rule that
decides at its offset, which kept what it owes. -/
inductive Finds (rules : List Rule) (source : Array Char) : Nat → List Token → Nat → Prop where
  | nil (offset : Nat) : Finds rules source offset [] offset
  | cons {offset stop : Nat} {rule : Rule} {token : Token} {after : Cursor} {tokens : List Token}
      (within : offset < source.size)
      (decides : Decides rules source offset rule (.token token after))
      (kept : breach? rule.kind token after = none)
      (rest : Finds rules source after.position tokens stop) :
      Finds rules source offset (token :: tokens) stop

namespace Finds

theorem le {offset stop : Nat} {tokens : List Token} (h : Finds rules source offset tokens stop) :
    offset ≤ stop := by
  induction h with
  | nil => exact Nat.le_refl _
  | cons _ decides _ _ ih => exact Nat.le_trans decides.reaches.position ih

/-- Tokens in two parts are found in two stretches that meet. -/
theorem exists_of_append {offset stop : Nat} {front back : List Token}
    (h : Finds rules source offset (front ++ back) stop) :
    ∃ middle, Finds rules source offset front middle ∧ Finds rules source middle back stop := by
  induction front generalizing offset with
  | nil => exact ⟨offset, .nil offset, h⟩
  | cons token front ih =>
    cases h with
    | cons within decides kept rest =>
      obtain ⟨middle, before, behind⟩ := ih rest
      exact ⟨middle, .cons within decides kept before, behind⟩

/-- **Nothing is lost.**  The texts of the tokens make up the stretch between the offsets. -/
theorem join_eq {offset stop : Nat} {tokens : List Token}
    (h : Finds rules source offset tokens stop) :
    Token.join tokens = String.ofList (source.extract offset stop).toList := by
  induction h with
  | nil offset =>
    rw [Array.extract_eq_empty_of_le (Nat.min_le_left _ _)]
    rfl
  | @cons offset stop rule token after tokens _ decides kept rest ih =>
    obtain ⟨-, -, text⟩ := breach?_eq_none_iff.1 kept
    rw [Token.join_cons, ih, text, decides.text_eq]
    exact Cursor.ofList_extract_append source decides.reaches.position rest.le

/-- The offset of what follows is the width of the tokens before it. -/
theorem width_eq {offset stop : Nat} {tokens : List Token}
    (h : Finds rules source offset tokens stop) (within : stop ≤ source.size) :
    offset + Token.width tokens = stop := by
  have length := congrArg String.length h.join_eq
  rw [Token.length_join, String.length_ofList, Array.length_toList, Array.size_extract,
    Nat.min_eq_left within] at length
  have := h.le
  omega

/-- The lexer's loop goes on behind tokens that are found. -/
theorem tokensFrom_eq {offset stop : Nat} {tokens : List Token}
    (h : Finds rules source offset tokens stop) (found : List Token) :
    tokensFrom rules source offset found =
      tokensFrom rules source stop (tokens.reverse ++ found) := by
  induction h generalizing found with
  | nil => rfl
  | @cons offset stop rule token after tokens within decides kept _ ih =>
    have first : firstMatch rules (.begin source offset) = some (rule.kind, .token token after) :=
      firstMatch_eq_some_iff.2 ⟨rule, rfl, decides⟩
    rw [tokensFrom_turn, dif_pos within, first]
    dsimp only
    rw [kept]
    dsimp only
    rw [ih, List.reverse_cons, List.append_assoc]
    rfl

end Finds

/-! ## The lexer's loop -/

/-- **Where the loop stops, and why.**  Tokens are found up to the offset at which it stops.  That
is the end of the source, or every rule passes there, or the rule that decides there is broken or
looks before the beginning of the source. -/
theorem tokensFrom_cases (rules : List Rule) (source : Array Char) (position : Nat)
    (found : List Token) :
    ∃ tokens stop, Finds rules source position tokens stop ∧
      ((source.size ≤ stop ∧
        tokensFrom rules source position found = .ok (found.reverse ++ tokens)) ∨
      (∃ symbol, source[stop]? = some symbol ∧
        (∀ rule ∈ rules, rule.matcher.run (.begin source stop) = none) ∧
        tokensFrom rules source position found = .error (.unknownSymbol symbol stop)) ∨
      (∃ rule token after breach, stop < source.size ∧
        Decides rules source stop rule (.token token after) ∧
        breach? rule.kind token after = some breach ∧
        tokensFrom rules source position found = .error (.brokenRule rule.kind breach stop)) ∨
      ∃ rule, Decides rules source stop rule .outOfRange ∧
        tokensFrom rules source position found = .error (.outOfRange rule.kind stop)) := by
  fun_induction tokensFrom rules source position found with
  | case1 position found within none =>
    refine ⟨[], position, .nil position, .inr (.inl ⟨source[position], ?_, ?_, rfl⟩)⟩
    · exact Array.getElem?_eq_getElem within
    · exact firstMatch_eq_none_iff.1 none
  | case2 position found within kind outside =>
    obtain ⟨rule, rfl, decides⟩ := firstMatch_eq_some_iff.1 outside
    exact ⟨[], position, .nil position, .inr (.inr (.inr ⟨rule, decides, rfl⟩))⟩
  | case3 position found within kind token after matched breach broken =>
    obtain ⟨rule, rfl, decides⟩ := firstMatch_eq_some_iff.1 matched
    exact ⟨[], position, .nil position,
      .inr (.inr (.inl ⟨rule, token, after, breach, within, decides, broken, rfl⟩))⟩
  | case4 position found within kind token after matched kept ih =>
    obtain ⟨rule, rfl, decides⟩ := firstMatch_eq_some_iff.1 matched
    obtain ⟨tokens, stop, rest, outcome⟩ := ih
    refine ⟨token :: tokens, stop, .cons within decides kept rest, ?_⟩
    rw [List.reverse_cons, List.append_assoc] at outcome
    exact outcome
  | case5 position found past =>
    refine ⟨[], position, .nil position, .inl ⟨Nat.le_of_not_lt past, ?_⟩⟩
    rw [List.append_nil]

/-! ## Whole sources -/

/-- Whether tokens are read in turn: each, at the offset that is the width of the tokens before it,
is what the first rule not to pass comes to, has the kind of that rule, and stands for the text
that was read, which is not empty. -/
def ReadInTurn (rules : List Rule) (source : String) (tokens : List Token) : Prop :=
  ∀ front token back, tokens = front ++ token :: back →
    token.text ≠ "" ∧ ∃ rule after,
      Decides rules source.toList.toArray (Token.width front) rule (.token token after) ∧
        token.kind = rule.kind ∧ token.text = after.text

/-- What reading a source by a table of rules may come to, without a look before its beginning. -/
inductive Outcome (rules : List Rule) (source : String) :
    Except LexFault (List Token) → Prop where
  /-- The source is read to its end, and the texts of the tokens make it up. -/
  | tokens {tokens : List Token} (inTurn : ReadInTurn rules source tokens)
      (lossless : Token.join tokens = source) : Outcome rules source (.ok tokens)
  /-- Behind what is read stands a symbol at which every rule passes. -/
  | unknownSymbol {front : List Token} {symbol : Char} {offset : Nat}
      (inTurn : ReadInTurn rules source front)
      (lossless : Token.join front = String.ofList (source.toList.take offset))
      (here : source.toList[offset]? = some symbol)
      (passed : ∀ rule ∈ rules, rule.matcher.run (.begin source.toList.toArray offset) = none) :
      Outcome rules source (.error (.unknownSymbol symbol offset))
  /-- Behind what is read, and before the end, the rule that decides broke what it owes. -/
  | brokenRule {front : List Token} {rule : Rule} {token : Token} {after : Cursor}
      {breach : Breach} {offset : Nat} (inTurn : ReadInTurn rules source front)
      (lossless : Token.join front = String.ofList (source.toList.take offset))
      (within : offset < source.length)
      (decides : Decides rules source.toList.toArray offset rule (.token token after))
      (describes : breach.Describes rule.kind token after) :
      Outcome rules source (.error (.brokenRule rule.kind breach offset))

/-- Tokens that are found from the beginning are read in turn. -/
theorem Finds.readInTurn {source : String} {stop : Nat} {tokens : List Token}
    (h : Finds rules source.toList.toArray 0 tokens stop) : ReadInTurn rules source tokens := by
  rintro front token back rfl
  obtain ⟨middle, before, behind⟩ := h.exists_of_append
  cases behind with
  | @cons _ _ rule _ after _ within decides kept _ =>
    have offset : Token.width front = middle := by
      rw [← before.width_eq (Nat.le_of_lt within), Nat.zero_add]
    obtain ⟨kind, some_text, text⟩ := breach?_eq_none_iff.1 kept
    rw [offset]
    exact ⟨some_text, rule, after, decides, kind, text⟩

/-- Tokens that are found from the beginning make up the source before the offset reached. -/
theorem Finds.join_eq_take {source : String} {stop : Nat} {tokens : List Token}
    (h : Finds rules source.toList.toArray 0 tokens stop) :
    Token.join tokens = String.ofList (source.toList.take stop) := by
  rw [h.join_eq, Array.toList_extract, List.extract_eq_take_drop, Nat.sub_zero, List.drop_zero]

/-- Tokens that are found to the end make up the source. -/
theorem Finds.join_eq_of_le {source : String} {stop : Nat} {tokens : List Token}
    (h : Finds rules source.toList.toArray 0 tokens stop)
    (past : source.toList.toArray.size ≤ stop) : Token.join tokens = source := by
  rw [h.join_eq_take, List.take_of_length_le past, String.ofList_toList]

end Lexer

/-- The tokens of a source are those that are found up to its end. -/
theorem tokenize_eq_ok_iff {rules : List Rule} {source : String} {tokens : List Token} :
    tokenize rules source = .ok tokens ↔
      ∃ stop, Lexer.Finds rules source.toList.toArray 0 tokens stop ∧
        source.toList.toArray.size ≤ stop := by
  constructor
  · intro h
    rw [tokenize] at h
    obtain ⟨others, stop, found, ⟨past, read⟩ | ⟨_, _, _, other⟩ | ⟨_, _, _, _, _, _, _, other⟩ |
      ⟨_, _, other⟩⟩ := Lexer.tokensFrom_cases rules source.toList.toArray 0 []
    · cases Except.ok.inj (h.symm.trans read)
      exact ⟨stop, found, past⟩
    · exact absurd (h.symm.trans other) (by simp)
    · exact absurd (h.symm.trans other) (by simp)
    · exact absurd (h.symm.trans other) (by simp)
  · rintro ⟨stop, found, past⟩
    rw [tokenize, found.tokensFrom_eq, Lexer.tokensFrom, dif_neg (Nat.not_lt.2 past),
      List.append_nil, List.reverse_reverse]

/-- Before an unknown symbol, tokens are found up to its offset; at it, every rule passes. -/
theorem exists_finds_of_unknownSymbol {rules : List Rule} {source : String} {symbol : Char}
    {offset : Nat} (h : tokenize rules source = .error (.unknownSymbol symbol offset)) :
    ∃ front, Lexer.Finds rules source.toList.toArray 0 front offset ∧
      source.toList[offset]? = some symbol ∧
      ∀ rule ∈ rules, rule.matcher.run (.begin source.toList.toArray offset) = none := by
  rw [tokenize] at h
  obtain ⟨front, stop, found, ⟨_, other⟩ | ⟨_, here, passed, unknown⟩ |
    ⟨_, _, _, _, _, _, _, other⟩ | ⟨_, _, other⟩⟩ :=
    Lexer.tokensFrom_cases rules source.toList.toArray 0 []
  · exact absurd (h.symm.trans other) (by simp)
  · cases Except.error.inj (h.symm.trans unknown)
    rw [← Array.getElem?_toList] at here
    exact ⟨front, found, here, passed⟩
  · exact absurd (h.symm.trans other) (by simp)
  · exact absurd (h.symm.trans other) (by simp)

/-- **What reading by a table of rules comes to.**  Where no matcher looks before the beginning of
the source, the lexer answers tokens that are read in turn and make up the source, or names the
symbol or the broken rule behind tokens that are read in turn and make up the source before it. -/
theorem outcome_tokenize (rules : List Rule) (source : String)
    (quiet : ∀ rule ∈ rules, ∀ offset,
      rule.matcher.run (.begin source.toList.toArray offset) ≠ some .outOfRange) :
    Lexer.Outcome rules source (tokenize rules source) := by
  rw [tokenize]
  obtain ⟨front, stop, found, ⟨past, read⟩ | ⟨symbol, here, passed, unknown⟩ |
    ⟨rule, token, after, breach, within, decides, broken, fault⟩ | ⟨rule, decides, _⟩⟩ :=
    Lexer.tokensFrom_cases rules source.toList.toArray 0 []
  · rw [read]
    exact .tokens found.readInTurn (found.join_eq_of_le past)
  · rw [unknown]
    rw [← Array.getElem?_toList] at here
    exact .unknownSymbol found.readInTurn found.join_eq_take here passed
  · rw [fault]
    exact .brokenRule found.readInTurn found.join_eq_take within decides
      (Lexer.describes_of_breach? within decides broken)
  · exact absurd decides.run (quiet rule decides.mem stop)

/-- A table whose second matcher reads one character and then asks for the empty text, which moves
it past the end of a source that is used up. -/
def overrunningRules : List Rule := [
  ⟨.space, .oneChar " " .space⟩,
  ⟨.number, .ofScript ⟨[.advance, .readChar ""], some .number, none, false⟩⟩]

/-- Such a table reads `a b`: the second rule decides where the first passes, and the last cursor
ends up behind the end. -/
theorem outcome_tokenize_overrunning :
    (∀ rule ∈ overrunningRules, ∀ offset,
      rule.matcher.run (.begin "a b".toList.toArray offset) ≠ some .outOfRange) ∧
    tokenize overrunningRules "a b" =
      .ok [⟨.number, "a"⟩, ⟨.space, " "⟩, ⟨.number, "b"⟩] ∧
    Lexer.Outcome overrunningRules "a b"
      (.ok [⟨.number, "a"⟩, ⟨.space, " "⟩, ⟨.number, "b"⟩]) := by
  have quiet : ∀ rule ∈ overrunningRules, ∀ offset,
      rule.matcher.run (.begin "a b".toList.toArray offset) ≠ some .outOfRange := by
    simp [overrunningRules, Matcher.oneChar, Matcher.ofScript, Matcher.Script.perform,
      Cursor.perform]
  have passes : ∀ offset ∈ [0, 2], ∀ rule ∈ overrunningRules.take 1,
      rule.matcher.run (.begin "a b".toList.toArray offset) = none := by
    simp only [overrunningRules, List.take_succ_cons, List.take_zero, List.forall_mem_singleton,
      List.forall_mem_cons]
    exact ⟨rfl, rfl⟩
  have second : overrunningRules = overrunningRules.take 1 ++ overrunningRules[1] :: [] := rfl
  have read : tokenize overrunningRules "a b" =
      .ok [⟨.number, "a"⟩, ⟨.space, " "⟩, ⟨.number, "b"⟩] := by
    refine tokenize_eq_ok_iff.2 ⟨4, ?_, by decide⟩
    refine .cons (by decide) ⟨_, _, second, passes 0 (by simp), rfl⟩ rfl ?_
    refine .cons (by decide) ⟨[], _, rfl, fun _ mem => absurd mem List.not_mem_nil, rfl⟩ rfl ?_
    exact .cons (by decide) ⟨_, _, second, passes 2 (by simp), rfl⟩ rfl (.nil 4)
  exact ⟨quiet, read, read ▸ outcome_tokenize overrunningRules "a b" quiet⟩

end Reckon
