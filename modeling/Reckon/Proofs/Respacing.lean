import Mathlib.Data.List.DropRight
import Reckon.Proofs.Arrangement.Respacing
import Reckon.Proofs.Evaluation
import Reckon.Proofs.Rejection.Place

/-!
# Blanks may be put between tokens

A source that is read into tokens may have blanks put in between two of them, before the first or
behind the last.  The longer source is parsed to the same tree, or is rejected for the same reason.
The place of the rejection is that of the same text: it stays where it is if it begins before the
blanks, and is moved on by as many characters as were put in if it begins behind them
(`parse_insert_blanks`).

## The tokens of the longer source

They are not simply the old ones and one more.  Blanks join the blanks they touch, on either side,
and every later token has another index.  But the two lists differ at one spot only, where a
stretch of blanks has given way to another: `exists_respaced`.  What is no blank stands in the part
before that spot, with its offset unchanged, or in the part behind it, with its offset moved.
-/

namespace Reckon

namespace Token

/-- Blanks as tokens: a run of them, unless there are none. -/
def blankRun (text : String) : List Token := if text = "" then [] else [⟨.space, text⟩]

theorem isSpace_of_mem_blankRun {text : String} {token : Token} (h : token ∈ blankRun text) :
    token.isSpace = true := by
  unfold blankRun at h
  split at h
  · exact absurd h List.not_mem_nil
  · rw [List.mem_singleton.1 h]
    rfl

theorem join_blankRun (text : String) : join (blankRun text) = text := by
  unfold blankRun
  split
  · next empty => exact empty.symm
  · rw [join_cons, join_nil, String.append_empty]

theorem width_blankRun (text : String) : width (blankRun text) = text.length := by
  rw [← length_join, join_blankRun]

/-- Blanks and what is none may stand side by side. -/
theorem apart_of_space {a b : Token} (h : a.isSpace ≠ b.isSpace) : Apart a b := by
  refine ⟨?_, ?_⟩
  · rintro ⟨ha, hb⟩
    exact h (by rw [isSpace, isSpace, ha, hb])
  · rintro ⟨ha, hb⟩
    exact h (by rw [isSpace, isSpace, ha, hb])

/-- Tokens with a run of blanks between two parts that do not touch it with blanks. -/
theorem WellSpelled.blankRun_between {front back : List Token} (hfront : WellSpelled front)
    (hback : WellSpelled back) (last : ∀ token ∈ front.getLast?, token.isSpace = false)
    (first : ∀ token ∈ back.head?, token.isSpace = false) {text : String} (some_text : text ≠ "")
    (blank : ∀ c ∈ text.toList, c ∈ blanks.toList) :
    WellSpelled (front ++ (blankRun text ++ back)) := by
  rw [blankRun, if_neg some_text, List.singleton_append]
  refine ⟨fun token mem => ?_, List.isChain_append.2 ⟨hfront.apart, ?_, ?_⟩⟩
  · rcases List.mem_append.1 mem with mem | mem
    · exact hfront.lexeme token mem
    · rcases List.mem_cons.1 mem with rfl | mem
      · exact ⟨some_text, blank⟩
      · exact hback.lexeme token mem
  · refine List.isChain_cons.2 ⟨fun next here => apart_of_space ?_, hback.apart⟩
    rw [first next here]
    exact Bool.noConfusion
  · intro before here next behind
    cases Option.some.inj behind
    refine apart_of_space ?_
    rw [last before here]
    exact Bool.noConfusion

theorem WellSpelled.of_append_left {front back : List Token} (h : WellSpelled (front ++ back)) :
    WellSpelled front :=
  ⟨fun token mem => h.lexeme token (List.mem_append_left _ mem),
    (List.isChain_append.1 h.apart).1⟩

/-- Blanks as tokens make up blanks. -/
theorem mem_blanks_of_join {tokens : List Token} (lexemes : ∀ token ∈ tokens, token.IsLexeme)
    (spaces : ∀ token ∈ tokens, token.isSpace = true) :
    ∀ c ∈ (join tokens).toList, c ∈ blanks.toList := by
  intro c mem
  obtain ⟨token, here, inside⟩ := mem_join_iff.1 mem
  have lexeme := lexemes token here
  rw [IsLexeme, isSpace_eq_true_iff.1 (spaces token here)] at lexeme
  exact lexeme.2 c inside

/-- Only no tokens make up nothing. -/
theorem eq_nil_of_join_eq_empty {tokens : List Token}
    (lexemes : ∀ token ∈ tokens, token.IsLexeme) (h : join tokens = "") : tokens = [] := by
  cases tokens with
  | nil => rfl
  | cons token rest =>
    have some_text := (lexemes token (List.mem_cons_self ..)).toList_ne_nil
    rw [join_cons, String.append_eq_empty_iff] at h
    exact absurd (String.toList_eq_nil_iff.2 h.1) some_text

/-- The blanks that tokens end with. -/
theorem exists_trailing_spaces (tokens : List Token) :
    ∃ solid spaces, tokens = solid ++ spaces ∧ (∀ token ∈ spaces, token.isSpace = true) ∧
      ∀ token ∈ solid.getLast?, token.isSpace = false := by
  refine ⟨tokens.rdropWhile isSpace, tokens.rtakeWhile isSpace, ?_, ?_, ?_⟩
  · exact List.rdropWhile_append_rtakeWhile.symm
  · exact fun token mem => List.mem_rtakeWhile_imp mem
  · intro token here
    obtain ⟨some_token, rfl⟩ := List.mem_getLast?_eq_getLast here
    simpa using List.rdropWhile_last_not isSpace tokens some_token

/-- The blanks that tokens begin with. -/
theorem exists_leading_spaces (tokens : List Token) :
    ∃ spaces solid, tokens = spaces ++ solid ∧ (∀ token ∈ spaces, token.isSpace = true) ∧
      ∀ token ∈ solid.head?, token.isSpace = false := by
  refine ⟨tokens.takeWhile isSpace, tokens.dropWhile isSpace, ?_, ?_, ?_⟩
  · exact List.takeWhile_append_dropWhile.symm
  · exact fun token mem => List.mem_takeWhile_imp mem
  · intro token here
    have outside := List.head?_dropWhile_not isSpace tokens
    rw [Option.mem_def.1 here] at outside
    simpa using outside

/-- **The tokens of a source with blanks put in.**  They are the old ones, but at the spot where the
blanks were put in a stretch of blanks has given way to another, which is longer by as much. -/
theorem exists_respaced {front back : List Token} (spelled : WellSpelled (front ++ back))
    {text : String} (blank : ∀ c ∈ text.toList, c ∈ blanks.toList) :
    ∃ before old new behind, front ++ back = before ++ (old ++ behind) ∧
      (∀ token ∈ old, token.isSpace = true) ∧ (∀ token ∈ new, token.isSpace = true) ∧
      WellSpelled (before ++ (new ++ behind)) ∧
      join (before ++ (new ++ behind)) = join front ++ text ++ join back ∧
      width before ≤ width front ∧ width front ≤ width before + width old ∧
      width new = width old + text.length := by
  obtain ⟨before, left, rfl, hleft, last⟩ := exists_trailing_spaces front
  obtain ⟨right, behind, rfl, hright, first⟩ := exists_leading_spaces back
  have old : ∀ token ∈ left ++ right, token.isSpace = true := fun token mem =>
    (List.mem_append.1 mem).elim (hleft token) (hright token)
  have split : before ++ left ++ (right ++ behind) = before ++ (left ++ right ++ behind) := by
    simp only [List.append_assoc]
  rw [split] at spelled
  have lexemes : ∀ token ∈ left ++ right, token.IsLexeme := fun token mem =>
    spelled.lexeme token (List.mem_append_right _ (List.mem_append_left _ mem))
  have joined : join left ++ text ++ join right = "" ∨
      join left ++ text ++ join right ≠ "" := Classical.em _
  refine ⟨before, left ++ right, blankRun (join left ++ text ++ join right), behind, split, old,
    fun token => isSpace_of_mem_blankRun, ?_, ?_, ?_, ?_, ?_⟩
  · rcases joined with empty | some_text
    · -- nothing is put in and nothing was there, so the tokens are the old ones
      have none : left ++ right = [] := by
        refine eq_nil_of_join_eq_empty lexemes ?_
        simp only [String.append_eq_empty_iff] at empty
        rw [join_append, empty.1.1, empty.2, String.append_empty]
      rw [none] at spelled
      rwa [empty]
    · refine spelled.of_append_left.blankRun_between spelled.of_append_right.of_append_right last
        first some_text fun c mem => ?_
      have within : c ∈ (join (left ++ right)).toList ∨ c ∈ text.toList := by
        simp only [join_append, String.toList_append, List.mem_append] at mem ⊢
        tauto
      exact within.elim (mem_blanks_of_join lexemes old c) (blank c)
  · simp only [join_append, join_blankRun, String.append_assoc]
  · rw [width_append]
    exact Nat.le_add_right _ _
  · simp only [width_append]
    omega
  · simp only [width_blankRun, width_append, String.length_append, length_join]
    omega

end Token

/-! ## Assembly and parsing -/

/-- Assembly of tokens that are the same but for blanks. -/
theorem Expr.ofTokens_of_withoutSpaces_eq {tokens others : List Token}
    (same : Token.withoutSpaces tokens = Token.withoutSpaces others) :
    ofTokens tokens = ofTokens others := by
  rw [ofTokens, ofTokens, Assembly.run_withoutSpaces, same, ← Assembly.run_withoutSpaces]

/-! ## The main statement -/

/-- A source with a text put in at an offset. -/
def insertAt (source : String) (offset : Nat) (text : String) : String :=
  String.ofList (source.toList.take offset ++ text.toList ++ source.toList.drop offset)

/-- The rejection of a longer source, `count` characters of which are put in at an offset: what
begins at the offset or behind it is moved on. -/
def Rejection.movedOn (rejection : Rejection) (offset count : Nat) (source : String) : Rejection :=
  if rejection.start < offset then { rejection with source }
  else { rejection with start := rejection.start + count, stop := rejection.stop + count, source }

theorem insertAt_width_join (front back : List Token) (text : String) :
    insertAt (Token.join (front ++ back)) (Token.width front) text =
      Token.join front ++ text ++ Token.join back := by
  rw [insertAt, Token.take_width_join, Token.drop_width_join, ← String.toList_append,
    ← String.toList_append, String.ofList_toList]

/-- What is no blank stands before a stretch of blanks or behind it. -/
theorem exists_split_around_spaces {before old behind front back : List Token} {token : Token}
    (spaces : ∀ token ∈ old, token.isSpace = true) (solid : ¬token.isSpace = true)
    (split : before ++ (old ++ behind) = front ++ token :: back) :
    (∃ rest, before = front ++ token :: rest ∧ back = rest ++ (old ++ behind)) ∨
      ∃ rest, front = before ++ (old ++ rest) ∧ behind = rest ++ token :: back := by
  rcases List.append_eq_append_iff.1 split with ⟨middle, rfl, later⟩ | ⟨middle, rfl, later⟩
  · rcases List.append_eq_append_iff.1 later with ⟨rest, rfl, behind⟩ | ⟨rest, rfl, within⟩
    · exact .inr ⟨rest, rfl, behind⟩
    · cases rest with
      | nil => exact .inr ⟨[], by simp, within.symm⟩
      | cons first rest =>
        cases (List.cons.inj within).1
        exact absurd (spaces token (List.mem_append_right _ (List.mem_cons_self ..))) solid
  · cases middle with
    | nil =>
      cases old with
      | nil => exact .inr ⟨[], by simp, later.symm⟩
      | cons space old =>
        cases (List.cons.inj later).1
        exact absurd (spaces token (List.mem_cons_self ..)) solid
    | cons first rest =>
      obtain ⟨rfl, rfl⟩ := List.cons.inj later
      exact .inl ⟨rest, rfl, rfl⟩

/-- Tokens in which a stretch of blanks has given way to another. -/
theorem withoutSpaces_respaced {old new : List Token}
    (hold : ∀ token ∈ old, token.isSpace = true) (hnew : ∀ token ∈ new, token.isSpace = true)
    (before behind : List Token) :
    Token.withoutSpaces (before ++ (old ++ behind)) =
      Token.withoutSpaces (before ++ (new ++ behind)) := by
  simp only [Token.withoutSpaces_append, Token.withoutSpaces_eq_nil hold,
    Token.withoutSpaces_eq_nil hnew]

namespace Calculator

/-- A rejection without a place stays without one. -/
theorem failureOfArrangement_movedOn_of_none {fault : Misplacement} (place : fault.index = none)
    (source other : String) (tokens others : List Token) (offset count : Nat) :
    ∃ rejection, failureOfArrangement source tokens fault =
        .rejected rejection (.arrangement fault) ∧
      failureOfArrangement other others fault =
        .rejected (rejection.movedOn offset count other) (.arrangement fault) := by
  refine ⟨_, failureOfArrangement_of_none place source tokens, ?_⟩
  have unmoved : (-1 : Int) < offset := Int.lt_of_lt_of_le (by decide) (Int.natCast_nonneg offset)
  rw [failureOfArrangement_of_none place, Rejection.movedOn, if_pos unmoved]

/-- **The fault of the longer source.**  Where tokens are out of order, those of the longer source
are too, and the rejection is the same but for its place. -/
theorem exists_rejected_respaced {before old new behind : List Token} {fault : Misplacement}
    {offset count : Nat} (lexemes : ∀ token ∈ before ++ (old ++ behind), token.IsLexeme)
    (hold : ∀ token ∈ old, token.isSpace = true) (hnew : ∀ token ∈ new, token.isSpace = true)
    (lower : Token.width before ≤ offset)
    (upper : offset ≤ Token.width before + Token.width old)
    (wider : Token.width new = Token.width old + count)
    (checked : Arrangement.check (before ++ (old ++ behind)) = .error fault)
    (source other : String) :
    ∃ fault' rejection, Arrangement.check (before ++ (new ++ behind)) = .error fault' ∧
      failureOfArrangement source (before ++ (old ++ behind)) fault =
        .rejected rejection (.arrangement fault) ∧
      failureOfArrangement other (before ++ (new ++ behind)) fault' =
        .rejected (rejection.movedOn offset count other) (.arrangement fault') := by
  have same := withoutSpaces_respaced hold hnew before behind
  cases place : fault.index with
  | none =>
    obtain ⟨rejection, rejected, moved⟩ :=
      failureOfArrangement_movedOn_of_none place source other (before ++ (old ++ behind))
        (before ++ (new ++ behind)) offset count
    exact ⟨fault, rejection, Arrangement.check_of_withoutSpaces_eq_of_none same checked place,
      rejected, moved⟩
  | some index =>
    obtain ⟨front, token, back, split, rfl⟩ :=
      Arrangement.exists_split_of_check_error checked place
    have lexeme : token.IsLexeme :=
      lexemes token (split ▸ List.mem_append_right _ (List.mem_cons_self ..))
    have positive : 0 < token.text.length := by
      rw [← String.length_toList]
      exact List.length_pos_iff.2 lexeme.toList_ne_nil
    have located := split ▸ checked
    obtain ⟨-, -, solid, -⟩ := Arrangement.check_error_at located place
    have rejected := failureOfArrangement_of_some place source token back
    rw [← split] at rejected
    rcases exists_split_around_spaces hold solid split with
      ⟨rest, rfl, rfl⟩ | ⟨rest, rfl, rfl⟩
    · -- the token stands before the blanks, and keeps its place
      have split' : front ++ token :: rest ++ (new ++ behind) =
          front ++ token :: (rest ++ (new ++ behind)) := by
        rw [List.append_assoc, List.cons_append]
      have checked' := Arrangement.check_of_withoutSpaces_eq_of_some rfl
        (withoutSpaces_respaced hold hnew rest behind) located place
      rw [← split'] at checked'
      have unmoved : ((Token.spanBehind front token).start : Int) < offset := by
        rw [Token.width_append, Token.width_cons] at lower
        show (Token.width front : Int) < offset
        omega
      refine ⟨_, _, checked', rejected, ?_⟩
      rw [split', failureOfArrangement_of_some rfl, Rejection.movedOn, if_pos unmoved]
    · -- the token stands behind the blanks, and is moved on
      have split' : before ++ (new ++ (rest ++ token :: back)) =
          before ++ (new ++ rest) ++ token :: back := by
        simp only [List.append_assoc]
      have checked' := Arrangement.check_of_withoutSpaces_eq_of_some
        (withoutSpaces_respaced hold hnew before rest) rfl located place
      rw [← split'] at checked'
      have moved : ¬((Token.spanBehind (before ++ (old ++ rest)) token).start : Int) < offset := by
        simp only [Token.spanBehind, Token.width_append]
        omega
      refine ⟨_, _, checked', rejected, ?_⟩
      rw [split', failureOfArrangement_of_some rfl, Rejection.movedOn, if_neg moved]
      simp only [Token.spanBehind, Token.width_append, wider]
      congr 2 <;> push_cast <;> omega

end Calculator

/-- **Blanks may be put between tokens.**  A source that is read into tokens and has blanks put in
where some of them end is parsed to the same tree, or rejected with it.  A rejection that has no
place, or begins before the blanks, stays where it is; any other is moved on by their number. -/
theorem parse_insert_blanks {source text : String} {front back : List Token}
    (read : tokenize arithmeticRules source = .ok (front ++ back))
    (blank : ∀ c ∈ text.toList, c ∈ blanks.toList) :
    (∃ tree, Calculator.standard.parse source = .ok tree ∧
        Calculator.standard.parse (insertAt source (Token.width front) text) = .ok tree) ∨
      ∃ rejection cause cause',
        Calculator.standard.parse source = .error (.rejected rejection cause) ∧
          Calculator.standard.parse (insertAt source (Token.width front) text) =
            .error (.rejected
              (rejection.movedOn (Token.width front) text.length
                (insertAt source (Token.width front) text)) cause') := by
  obtain ⟨spelled, rfl⟩ := tokenize_arithmeticRules_eq_ok_iff.1 read
  obtain ⟨before, old, new, behind, split, hold, hnew, spelled', joined, lower, upper, wider⟩ :=
    Token.exists_respaced spelled blank
  have longer : Token.join (before ++ (new ++ behind)) =
      insertAt (Token.join (front ++ back)) (Token.width front) text := by
    rw [joined, insertAt_width_join]
  have read' : tokenize arithmeticRules
      (insertAt (Token.join (front ++ back)) (Token.width front) text) =
        .ok (before ++ (new ++ behind)) :=
    tokenize_arithmeticRules_eq_ok_iff.2 ⟨spelled', longer⟩
  rw [Calculator.parse_of_tokenize read,
    Calculator.parse_of_tokenize read', split]
  rw [split] at spelled
  have same := withoutSpaces_respaced hold hnew before behind
  cases checked : Arrangement.check (before ++ (old ++ behind)) with
  | ok _ =>
    obtain ⟨tree, reads⟩ := Assembly.exists_reads_of_check checked
      (Calculator.numbersHaveValues_of_isLexeme spelled.lexeme)
    have assembled := Assembly.ofTokens_of_reads reads
    rw [Arrangement.check_of_withoutSpaces_eq same checked,
      ← Expr.ofTokens_of_withoutSpaces_eq same, assembled]
    exact .inl ⟨tree, rfl, rfl⟩
  | error fault =>
    obtain ⟨fault', rejection, checked', rejected, moved⟩ :=
      Calculator.exists_rejected_respaced spelled.lexeme hold hnew lower upper wider checked
        (Token.join (before ++ (old ++ behind)))
        (insertAt (Token.join (before ++ (old ++ behind))) (Token.width front) text)
    rw [checked']
    refine .inr ⟨rejection, .arrangement fault, .arrangement fault', ?_, ?_⟩
    · rw [← rejected]
      rfl
    · rw [← moved]
      rfl

/-- A line feed put in before a parenthesis that closes nothing moves the fault to the next line. -/
theorem parse_insert_blanks_unbalanced :
    tokenize arithmeticRules "1)" = .ok ([⟨.number, "1"⟩] ++ [⟨.closeParen, ")"⟩]) ∧
    (∀ c ∈ "\n".toList, c ∈ blanks.toList) ∧ insertAt "1)" 1 "\n" = "1\n)" ∧
    ∃ cause cause',
      Calculator.standard.parse "1)" = .error (.rejected ⟨.unbalanced, 1, 2, "1)", none⟩ cause) ∧
      Calculator.standard.parse "1\n)" =
        .error (.rejected ⟨.unbalanced, 2, 3, "1\n)", none⟩ cause') := by
  have spelled : Token.WellSpelled ([⟨.number, "1"⟩] ++ [⟨.closeParen, ")"⟩]) := by
    have first : Token.IsLexeme ⟨.number, "1"⟩ := .whole (by decide) (List.all_eq_true.1 rfl)
    have closing : Token.IsLexeme ⟨.closeParen, ")"⟩ := rfl
    exact ⟨by simp [first, closing], by simp [Token.Apart]⟩
  have read : tokenize arithmeticRules "1)" =
      .ok ([⟨.number, "1"⟩] ++ [⟨.closeParen, ")"⟩]) :=
    tokenize_arithmeticRules_eq_ok_iff.2 ⟨spelled, rfl⟩
  have inside : "\n".toList ⊆ blanks.toList := by decide
  have blank : ∀ c ∈ "\n".toList, c ∈ blanks.toList := fun _ mem => inside mem
  have rejected : Calculator.standard.parse "1)" = .error (.rejected
      ⟨.unbalanced, 1, 2, "1)", none⟩ (.arrangement ⟨.unbalanced, some 1⟩)) := by
    rw [Calculator.parse_of_tokenize read]
    rfl
  refine ⟨read, blank, rfl, ?_⟩
  rcases parse_insert_blanks read blank with ⟨tree, parsed, -⟩ | ⟨_, cause, cause', same, moved⟩
  · exact absurd (rejected.symm.trans parsed) (by simp)
  · cases rejected.symm.trans same
    exact ⟨_, cause', rejected, moved⟩

end Reckon
