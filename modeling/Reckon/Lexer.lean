import Reckon.Cursor
import Reckon.Text.Quoted

/-!
# Lexing by a table of rules

The lexer knows nothing about arithmetic.  It is given a table of rules, each a kind of
token and a matcher; at every position the rules are tried in order, each on a fresh
cursor, and the first whose matcher does not pass decides.

## What a matcher owes

A matcher either passes or finds a token whose kind is that of its rule and whose text is
exactly what it read, which must not be empty.  A matcher is free to break this, and then
the lexer stops with the `Breach`.  A matcher can also look for a character before the
beginning of the source, where there is none; that stops the lexer too, wherever in the
matcher it happens.  What a matcher cannot do is leave its source: its cursor behind a
token is one that reading reaches.

Together these make the lexer come to an end.  An accepted token has a text, so the
cursor has moved past its start, and the next position is larger.
-/

namespace Reckon

/-- What a matcher that does not pass comes to: a token, with the cursor behind it, or a
look for a character before the beginning of the source. -/
inductive Match where
  | token (token : Token) (after : Cursor)
  | outOfRange
  deriving DecidableEq, Repr

/-- A way to find a token at a position. -/
structure Matcher where
  /-- What reading from a cursor comes to; a matcher that passes comes to nothing. -/
  run : Cursor → Option Match
  /-- The cursor behind a token is one that reading reaches. -/
  reaches : ∀ {before after : Cursor} {token : Token},
    run before = some (.token token after) → before.Reaches after

/-- A kind of token, and how to find it. -/
structure Rule where
  kind : TokenKind
  matcher : Matcher

/-- How a matcher broke what it owes. -/
inductive Breach where
  | otherKind (returned : TokenKind)
  | nothingRead
  | otherText (returned read : String)
  deriving DecidableEq, Repr

/-- Why a source has no tokens: no rule applies at an offset, or the rule that does is
broken there, or looks for a character before the beginning of the source. -/
inductive LexFault where
  | unknownSymbol (symbol : Char) (offset : Nat)
  | brokenRule (rule : TokenKind) (breach : Breach) (offset : Nat)
  | outOfRange (rule : TokenKind) (offset : Nat)
  deriving DecidableEq, Repr

/-- The words for a breach. -/
def Breach.message : Breach → String
  | otherKind returned => s!"returned a {returned.name} token"
  | nothingRead => "consumed no input"
  | otherText returned read => s!"returned {quoted returned} but consumed {quoted read}"

/-- The text of a fault. -/
def LexFault.message : LexFault → String
  | unknownSymbol symbol offset =>
    s!"unknown character {quoted (String.singleton symbol)} at offset {offset}"
  | brokenRule rule breach offset =>
    s!"matcher for {rule.name} {breach.message} at offset {offset}"
  | outOfRange _ _ => Cursor.outOfRangeMessage

namespace Matcher

/-- Finds a token of one wanted text, which is one character long. -/
def oneChar (want : String) (kind : TokenKind) : Matcher where
  run cursor :=
    if (cursor.readChar want).1 then some (.token ⟨kind, want⟩ (cursor.readChar want).2)
    else none
  reaches h := by
    split at h
    · cases h
      exact Cursor.reaches_readChar _ _
    · exact absurd h (by simp)

/-- Finds a run of characters that occur in a text. -/
def charRun (characters : String) (kind : TokenKind) : Matcher where
  run cursor :=
    let found := cursor.readWhile characters
    if found.1 = "" then none else some (.token ⟨kind, found.1⟩ found.2)
  reaches h := by
    dsimp only at h
    split at h
    · exact absurd h (by simp)
    · cases h
      exact Cursor.reaches_readRun _ _

/-- Finds a number. -/
def number : Matcher where
  run cursor :=
    let found := cursor.readNumber
    if found.1 = "" then none else some (.token ⟨.number, found.1⟩ found.2)
  reaches h := by
    dsimp only at h
    split at h
    · exact absurd h (by simp)
    · cases h
      exact Cursor.reaches_readNumber _

/-- A matcher given by a list of operations. -/
structure Script where
  /-- What to read, in order. -/
  steps : List Cursor.Action
  /-- The kind of the token found; without one, nothing is ever found. -/
  emit : Option TokenKind
  /-- The text of the token found; without one, what was read. -/
  text : Option String
  /-- Whether nothing is found unless the last operation succeeds. -/
  ifLast : Bool

namespace Script

/-- Carries out the operations up to one that has no answer: whether the last of them
succeeded, which holds of none at all, and the cursor afterwards.  There is no result if an
operation has no answer. -/
def perform (last : Bool) (cursor : Cursor) : List Cursor.Action → Option (Bool × Cursor)
  | [] => some (last, cursor)
  | action :: rest =>
    match cursor.perform action with
    | (.outOfRange, _) => none
    | (answer, after) => perform answer.isSuccess after rest

theorem reaches_perform {last succeeded : Bool} {cursor after : Cursor}
    {steps : List Cursor.Action} (h : perform last cursor steps = some (succeeded, after)) :
    cursor.Reaches after := by
  induction steps generalizing last cursor with
  | nil =>
    cases h
    exact .refl _
  | cons action rest ih =>
    have first := Cursor.reaches_perform cursor action
    unfold perform at h
    split at h
    · exact absurd h (by simp)
    · next done =>
      rw [done] at first
      exact first.trans (ih h)

end Script

/-- The matcher that a script describes. -/
def ofScript (script : Script) : Matcher where
  run cursor :=
    match Script.perform true cursor script.steps with
    | none => some .outOfRange
    | some (succeeded, after) =>
      if script.ifLast && !succeeded then none
      else script.emit.map fun kind => .token ⟨kind, script.text.getD after.text⟩ after
  reaches h := by
    split at h
    · exact absurd h (by simp)
    · next done =>
      split at h
      · exact absurd h (by simp)
      · obtain ⟨kind, _, found⟩ := Option.map_eq_some_iff.1 h
        cases found
        exact Script.reaches_perform done

end Matcher

namespace Lexer

/-- What the first rule that does not pass comes to, with the kind that the rule is for. -/
def firstMatch (rules : List Rule) (cursor : Cursor) : Option (TokenKind × Match) :=
  rules.findSome? fun rule => (rule.matcher.run cursor).map fun found => (rule.kind, found)

/-- How a token found for a kind breaks what its matcher owes, if it does. -/
def breach? (kind : TokenKind) (token : Token) (after : Cursor) : Option Breach :=
  if token.kind ≠ kind then some (.otherKind token.kind)
  else if after.text = "" then some .nothingRead
  else if token.text ≠ after.text then some (.otherText token.text after.text)
  else none

/-- A match that comes from reading is one that reading reaches. -/
theorem reaches_of_firstMatch {rules : List Rule} {cursor after : Cursor} {kind : TokenKind}
    {token : Token} (h : firstMatch rules cursor = some (kind, .token token after)) :
    cursor.Reaches after := by
  obtain ⟨rule, _, found⟩ := List.exists_of_findSome?_eq_some h
  obtain ⟨result, run, same⟩ := Option.map_eq_some_iff.1 found
  cases same
  exact rule.matcher.reaches run

/-- An accepted match moves on. -/
theorem position_lt_of_match {rules : List Rule} {source : Array Char} {position : Nat}
    {after : Cursor} {kind : TokenKind} {token : Token}
    (found : firstMatch rules (.begin source position) = some (kind, .token token after))
    (kept : breach? kind token after = none) : position < after.position := by
  have reaches := reaches_of_firstMatch found
  apply Nat.lt_of_not_le
  intro stuck
  have none_read : after.text = "" := Cursor.text_eq_empty (by rw [reaches.start]; exact stuck)
  simp only [breach?, none_read, ↓reduceIte] at kept
  split at kept <;> exact absurd kept (by simp)

/-- The tokens of a source from a position on, behind those already found, which stand in
reverse. -/
def tokensFrom (rules : List Rule) (source : Array Char) (position : Nat)
    (found : List Token) : Except LexFault (List Token) :=
  if h : position < source.size then
    match m : firstMatch rules (.begin source position) with
    | none => .error (.unknownSymbol source[position] position)
    | some (kind, .outOfRange) => .error (.outOfRange kind position)
    | some (kind, .token token after) =>
      match b : breach? kind token after with
      | some breach => .error (.brokenRule kind breach position)
      | none => tokensFrom rules source after.position (token :: found)
  else .ok found.reverse
termination_by source.size - position
decreasing_by
  have := position_lt_of_match m b
  omega

end Lexer

/-- The tokens of a source under a table of rules. -/
def tokenize (rules : List Rule) (source : String) : Except LexFault (List Token) :=
  Lexer.tokensFrom rules source.toList.toArray 0 []

end Reckon
