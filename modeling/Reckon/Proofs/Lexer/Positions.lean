import Mathlib.Data.List.DropRight
import Reckon.Proofs.Rejection.Place
import Reckon.Proofs.Text.Line
import Reckon.Proofs.Text.Quoted
import Reckon.TokenListing

/-!
# One place for every token

Three computations say where a token of a source stands.  The lexer was at a position when it found
the token, and committed itself to another behind it.  `Token.span?` adds up the widths of the tokens
before it.  A listing keeps a total while it goes through the tokens.  They agree, whatever the rules
(`positions_agree`).

## The spans in order

`Token.spansFrom` has all spans in order, computed with a running total.  The other two computations
are compared with it.

* The sum over the tokens in front of one is the total at this token (`span?_eq_getElem?`).  A
  negative index comes to the same, since the tokens in front of it and the token itself are found
  from the end in the same way (`span?_eq_map_spanBehind`).
* The total at a token is the position at which the lexer found it (`Finds.width_eq`).  The position
  behind it is the total behind it, except at the last token: there the lexer may be past the end of
  the source, where no text is left to count (`Finds.stop_eq`).

In a listing every token has a line of its own, although a token may hold line breaks: its text is
quoted, and quoted texts have none (`Token.ofText_rowsFrom`).
-/

namespace Reckon

/-! ## Places by index -/

namespace Token

/-- The tokens in front of an index; a negative one counts from the end, and one that is out of range
is cut off. -/
def inFrontOf (tokens : List Token) (index : Int) : List Token :=
  if 0 ≤ index then tokens.take index.toNat else tokens.rdrop (-index).toNat

/-- The token at an index; a negative one counts from the end. -/
def at? (tokens : List Token) (index : Int) : Option Token :=
  (place? tokens.length index).bind fun place => tokens[place]?

theorem place?_eq_some_iff {length place : Nat} {index : Int} :
    place? length index = some place ↔
      place < length ∧ (index = place ∨ index + length = place) := by
  unfold place?
  split_ifs with nonneg within behind
  · rw [Option.some_inj]
    omega
  · refine iff_of_false (by simp) ?_
    omega
  · rw [Option.some_inj]
    omega
  · refine iff_of_false (by simp) ?_
    omega

/-- An index names a place exactly if it is within the list, counted from either end. -/
theorem place?_eq_none_iff {length : Nat} {index : Int} :
    place? length index = none ↔ ¬(-(length : Int) ≤ index ∧ index < length) := by
  constructor
  · rintro none ⟨least, greatest⟩
    rcases Int.lt_or_le index 0 with negative | nonneg
    · have place : place? length index = some (index + length).toNat :=
        place?_eq_some_iff.2 ⟨by omega, .inr (by omega)⟩
      exact absurd (none.symm.trans place) (by simp)
    · have place : place? length index = some index.toNat :=
        place?_eq_some_iff.2 ⟨by omega, .inl (by omega)⟩
      exact absurd (none.symm.trans place) (by simp)
  · intro outside
    cases place : place? length index with
    | none => rfl
    | some place =>
      have := place?_eq_some_iff.1 place
      omega

/-- Counting from the end is counting from the beginning with the length added. -/
theorem place?_add_length {length : Nat} {index : Int} (negative : index < 0)
    (within : -(length : Int) ≤ index) : place? length (index + length) = place? length index := by
  have place : place? length index = some (index + length).toNat :=
    place?_eq_some_iff.2 ⟨by omega, .inr (by omega)⟩
  rw [place]
  exact place?_eq_some_iff.2 ⟨by omega, .inl (by omega)⟩

theorem inFrontOf_eq_take {tokens : List Token} {index : Int} {place : Nat}
    (h : place? tokens.length index = some place) : inFrontOf tokens index = tokens.take place := by
  obtain ⟨within, fromStart | fromEnd⟩ := place?_eq_some_iff.1 h
  · rw [inFrontOf, if_pos (by omega), fromStart, Int.toNat_natCast]
  · rw [inFrontOf, if_neg (by omega), List.rdrop]
    congr 1
    omega

/-- **A span is the width of the tokens in front, and the length of the token behind it.** -/
theorem span?_eq_map_spanBehind (tokens : List Token) (index : Int) :
    span? tokens index = (at? tokens index).map (spanBehind (inFrontOf tokens index)) := by
  rw [span?, at?]
  cases place : place? tokens.length index with
  | none => rfl
  | some place' =>
    rw [inFrontOf_eq_take place]
    cases here : tokens[place']? with
    | none => simp [here]
    | some token => simp [here, spanBehind]

theorem span?_eq_none_iff {tokens : List Token} {index : Int} :
    span? tokens index = none ↔ ¬(-(tokens.length : Int) ≤ index ∧ index < tokens.length) := by
  rw [span?_eq_map_spanBehind, Option.map_eq_none_iff, at?, ← place?_eq_none_iff]
  cases place : place? tokens.length index with
  | none => exact iff_of_true rfl rfl
  | some place' =>
    have within := (place?_eq_some_iff.1 place).1
    simp [within]

theorem span?_add_length {tokens : List Token} {index : Int} (negative : index < 0)
    (within : -(tokens.length : Int) ≤ index) :
    span? tokens (index + tokens.length) = span? tokens index := by
  rw [span?, span?, place?_add_length negative within]

/-! ## Places in order -/

/-- The spans of tokens, the first of which stands at an offset. -/
def spansFrom (offset : Nat) : List Token → List Span
  | [] => []
  | token :: rest =>
    ⟨offset, offset + token.text.length⟩ :: spansFrom (offset + token.text.length) rest

@[simp] theorem length_spansFrom (offset : Nat) (tokens : List Token) :
    (spansFrom offset tokens).length = tokens.length := by
  induction tokens generalizing offset with
  | nil => rfl
  | cons token rest ih => rw [spansFrom, List.length_cons, List.length_cons, ih]

/-- The running total at a token is the width of the tokens before it. -/
theorem getElem?_spansFrom {offset : Nat} {front back : List Token} {token : Token} :
    (spansFrom offset (front ++ token :: back))[front.length]? =
      some ⟨offset + width front, offset + width front + token.text.length⟩ := by
  induction front generalizing offset with
  | nil => rfl
  | cons first front ih =>
    rw [List.cons_append, spansFrom, List.length_cons, List.getElem?_cons_succ, ih, width_cons,
      Nat.add_assoc]

/-- **The sum over the tokens in front is the running total.** -/
theorem span?_eq_getElem? (tokens : List Token) (index : Nat) :
    span? tokens index = (spansFrom 0 tokens)[index]? := by
  by_cases within : index < tokens.length
  · obtain ⟨front, back, split, rfl⟩ :=
      exists_split_of_getElem? (List.getElem?_eq_getElem within)
    generalize tokens[front.length] = token at split
    subst split
    rw [span?_eq rfl, getElem?_spansFrom, Nat.zero_add]
    rfl
  · rw [span?_eq_none_iff.2 (by omega), List.getElem?_eq_none (by rw [length_spansFrom]; omega)]

/-! ## Listings -/

/-- What stands on the line of a token in a listing. -/
def rowText (offset : Nat) (token : Token) : String :=
  alignRight 4 (toString offset) ++ " " ++ alignLeft 7 token.kind.name ++ " " ++ quoted token.text

/-- The line of a token in a listing. -/
def rowLine (offset : Nat) (token : Token) : Line := ⟨(rowText offset token).toList, ['\n']⟩

theorem toList_row (offset : Nat) (token : Token) :
    (token.row offset).toList = (rowText offset token).toList ++ ['\n'] := by
  show (rowText offset token ++ "\n").toList = _
  rw [String.toList_append]
  rfl

/-- Nothing on the line of a token breaks it. -/
theorem unbroken_rowText (offset : Nat) (token : Token) :
    ∀ c ∈ (rowText offset token).toList, isLineBreak c = false := by
  have number : ∀ c ∈ (toString offset).toList, isLineBreak c = false := by
    rw [show toString offset = offset.repr from rfl, Nat.toList_repr]
    exact unbroken_toDigits (by decide) offset
  have name : ∀ c ∈ token.kind.name.toList, isLineBreak c = false := by
    cases token.kind with
    | operator op => cases op <;> simp [TokenKind.name, isLineBreak]
    | number => simp [TokenKind.name, isLineBreak]
    | openParen => simp [TokenKind.name, isLineBreak]
    | closeParen => simp [TokenKind.name, isLineBreak]
    | space => simp [TokenKind.name, isLineBreak]
  have blanks (count : Nat) : ∀ c ∈ List.replicate count ' ', isLineBreak c = false := by
    intro c mem
    rw [List.eq_of_mem_replicate mem]
    rfl
  have blank : ∀ c ∈ " ".toList, isLineBreak c = false := by simp [isLineBreak]
  simp only [rowText, alignRight, alignLeft, String.toList_append, String.toList_ofList,
    List.forall_mem_append]
  exact ⟨⟨⟨⟨⟨blanks _, number⟩, blank⟩, name, blanks _⟩, blank⟩, unbroken_quoted _⟩

/-- **A listing has one line for every token**, and on it the place at which its span starts. -/
theorem ofText_rowsFrom (offset : Nat) (tokens : List Token) :
    Line.ofText (String.join (rowsFrom offset tokens)).toList =
      List.zipWith (fun span token => rowLine span.start token) (spansFrom offset tokens) tokens := by
  induction tokens generalizing offset with
  | nil => rfl
  | cons token rest ih =>
    rw [rowsFrom, String.join_cons, String.toList_append, toList_row, List.append_assoc,
      List.singleton_append, Line.ofText_append_feed_of_unbroken (unbroken_rowText offset token), ih]
    rfl

theorem getElem?_ofText_listing (front back : List Token) (token : Token) :
    (Line.ofText (listing (front ++ token :: back)).toList)[front.length]? =
      some (rowLine (spanBehind front token).start token) := by
  have here : (front ++ token :: back)[front.length]? = some token := by
    rw [List.getElem?_append_right (Nat.le_refl _), Nat.sub_self]
    rfl
  rw [listing, ofText_rowsFrom, List.getElem?_zipWith, getElem?_spansFrom, here, Nat.zero_add]
  rfl

/-! ## Tilings -/

/-- Whether spans lie one behind the other from an offset to another, and none is empty. -/
def Tile : Nat → List Span → Nat → Prop
  | start, [], stop => start = stop
  | start, span :: rest, stop =>
    span.start = start ∧ span.start < span.stop ∧ Tile span.stop rest stop

theorem tile_spansFrom {tokens : List Token} (some_text : ∀ token ∈ tokens, token.text ≠ "")
    (offset : Nat) : Tile offset (spansFrom offset tokens) (offset + width tokens) := by
  induction tokens generalizing offset with
  | nil => rfl
  | cons token rest ih =>
    obtain ⟨first, others⟩ := List.forall_mem_cons.1 some_text
    have positive : 0 < token.text.length :=
      Nat.pos_of_ne_zero (String.length_eq_zero_iff.not.2 first)
    refine ⟨rfl, Nat.lt_add_of_pos_right positive, ?_⟩
    rw [width_cons, ← Nat.add_assoc]
    exact ih others _

end Token

/-! ## The positions of the lexer -/

namespace Lexer

variable {rules : List Rule}

theorem Finds.append {source : Array Char} {offset middle stop : Nat} {front back : List Token}
    (h : Finds rules source offset front middle) (h' : Finds rules source middle back stop) :
    Finds rules source offset (front ++ back) stop := by
  induction h with
  | nil => exact h'
  | cons within decides kept _ ih => exact .cons within decides kept (ih h')

theorem Finds.text_ne_empty {source : Array Char} {offset stop : Nat} {tokens : List Token}
    (h : Finds rules source offset tokens stop) : ∀ token ∈ tokens, token.text ≠ "" := by
  induction h with
  | nil => exact fun _ mem => absurd mem List.not_mem_nil
  | cons _ _ kept _ ih =>
    exact List.forall_mem_cons.2 ⟨(breach?_eq_none_iff.1 kept).2.1, ih⟩

/-- The position behind tokens is the offset behind their texts, unless it is past the end. -/
theorem Finds.stop_eq {source : Array Char} {offset stop : Nat} {tokens : List Token}
    (h : Finds rules source offset tokens stop) (within : offset ≤ source.size) :
    offset + Token.width tokens = min stop source.size := by
  have length := congrArg String.length h.join_eq
  rw [Token.length_join, String.length_ofList, Array.length_toList, Array.size_extract] at length
  have := h.le
  omega

/-- Whether a token of a source, the one at an index among its tokens, has one place for all who ask.

Its span is the one that is summed up, it is not empty, and it covers the text of the token.  The
lexer has come to its start behind the tokens before; it finds the token there, and commits itself to
its end, or to a position past the end of the source.  In the listing, the line of the token has its
start. -/
structure PlacedAt (rules : List Rule) (source : String) (tokens : List Token) (index : Nat)
    (token : Token) (span : Span) : Prop where
  summed : Token.span? tokens index = some span
  some_text : span.start < span.stop
  text : span.text source = token.text
  reached : Finds rules source.toList.toArray 0 (tokens.take index) span.start
  found : ∃ rule after, Decides rules source.toList.toArray span.start rule (.token token after) ∧
    breach? rule.kind token after = none ∧
    Finds rules source.toList.toArray 0 (tokens.take (index + 1)) after.position ∧
    span.stop = min after.position source.length
  listed : (Line.ofText (Token.listing tokens).toList)[index]? =
    some (Token.rowLine span.start token)

/-- **A token that is found has one place.** -/
theorem Finds.placedAt {source : String} {stop : Nat} {front back : List Token} {token : Token}
    (h : Finds rules source.toList.toArray 0 (front ++ token :: back) stop)
    (past : source.toList.toArray.size ≤ stop) :
    PlacedAt rules source (front ++ token :: back) front.length token
      (Token.spanBehind front token) := by
  have summed := Token.span?_eq (rfl : front ++ token :: back = front ++ token :: back)
  have lossless : Token.join (front ++ token :: back) = source := h.join_eq_of_le past
  have text := Token.text_spanBehind front back token
  rw [lossless] at text
  obtain ⟨middle, before, behind⟩ := h.exists_of_append
  cases behind with
  | @cons _ _ rule _ after _ within decides kept rest =>
    have start : (Token.spanBehind front token).start = middle := by
      rw [← before.width_eq (Nat.le_of_lt within), Nat.zero_add]
      rfl
    have upTo : Finds rules source.toList.toArray 0 (front ++ [token]) after.position :=
      before.append (.cons within decides kept (.nil _))
    have stop : (Token.spanBehind front token).stop = min after.position source.length := by
      rw [Token.stop_spanBehind, ← Nat.zero_add (Token.width _), upTo.stop_eq (Nat.zero_le _),
        List.size_toArray, String.length_toList]
    refine ⟨summed, ?_, text, ?_, ⟨rule, after, ?_, kept, ?_, stop⟩, ?_⟩
    · have some_text := (breach?_eq_none_iff.1 kept).2.1
      exact Nat.lt_add_of_pos_right (Nat.pos_of_ne_zero (String.length_eq_zero_iff.not.2 some_text))
    · rw [start, List.take_left]
      exact before
    · rw [start]
      exact decides
    · rw [List.append_cons, List.take_left' (by simp)]
      exact upTo
    · exact Token.getElem?_ofText_listing front back token

end Lexer

/-! ## The main statement -/

/-- **All computations of places agree.**

The spans of the tokens of a source lie one behind the other from its beginning to its end.  They are
as many as the tokens and as many as the lines of the listing, and each token has one place.

Whatever the tokens, an index has no span exactly if it is out of range on both sides; what has one is
made up of the tokens in front of the index and the token at it; and a negative index has that of the
index with the number of tokens added. -/
theorem positions_agree :
    (∀ rules source tokens, tokenize rules source = .ok tokens →
      ∃ spans : List Span, spans.length = tokens.length ∧
        (Line.ofText (Token.listing tokens).toList).length = tokens.length ∧
        Token.Tile 0 spans source.length ∧
        ∀ (index : Nat) (token : Token), tokens[index]? = some token →
          ∃ span, spans[index]? = some span ∧
            Lexer.PlacedAt rules source tokens index token span) ∧
    ∀ (tokens : List Token) (index : Int),
      (Token.span? tokens index = none ↔
        ¬(-(tokens.length : Int) ≤ index ∧ index < tokens.length)) ∧
      Token.span? tokens index =
        (Token.at? tokens index).map (Token.spanBehind (Token.inFrontOf tokens index)) ∧
      (index < 0 → -(tokens.length : Int) ≤ index →
        Token.span? tokens index = Token.span? tokens (index + tokens.length)) := by
  refine ⟨fun rules source tokens read => ?_, fun tokens index =>
    ⟨Token.span?_eq_none_iff, Token.span?_eq_map_spanBehind tokens index,
      fun negative within => (Token.span?_add_length negative within).symm⟩⟩
  obtain ⟨stop, found, past⟩ := tokenize_eq_ok_iff.1 read
  have whole : 0 + Token.width tokens = source.length := by
    rw [found.stop_eq (Nat.zero_le _), Nat.min_eq_right past, List.size_toArray,
      String.length_toList]
  refine ⟨Token.spansFrom 0 tokens, Token.length_spansFrom 0 tokens, ?_, ?_, ?_⟩
  · rw [Token.listing, Token.ofText_rowsFrom, List.length_zipWith, Token.length_spansFrom,
      Nat.min_self]
  · rw [← whole]
    exact Token.tile_spansFrom found.text_ne_empty 0
  · intro index token here
    obtain ⟨front, back, rfl, rfl⟩ := exists_split_of_getElem? here
    have placed := found.placedAt past
    exact ⟨_, (Token.span?_eq_getElem? _ _).symm.trans placed.summed, placed⟩

/-- A line feed, a blank and a letter as tokens. -/
def feedBlankLetter : List Token := [⟨.number, "\n"⟩, ⟨.space, " "⟩, ⟨.number, "b"⟩]

/-- Where a token is a line feed, and the last token is found by a matcher that goes past the end of
the source, the last token still has one place, which ends with the source; and it is the one that
is counted from the end. -/
theorem positions_agree_overrunning :
    tokenize overrunningRules "\n b" = .ok feedBlankLetter ∧
    Lexer.PlacedAt overrunningRules "\n b" feedBlankLetter 2 ⟨.number, "b"⟩ ⟨2, 3⟩ ∧
    ((-1 : Int) < 0 ∧ -(feedBlankLetter.length : Int) ≤ -1) ∧
    Token.span? feedBlankLetter (-1) = Token.span? feedBlankLetter (-1 + feedBlankLetter.length) := by
  have passes : ∀ offset ∈ [0, 2], ∀ rule ∈ overrunningRules.take 1,
      rule.matcher.run (.begin "\n b".toList.toArray offset) = none := by
    simp only [overrunningRules, List.take_succ_cons, List.take_zero, List.forall_mem_singleton,
      List.forall_mem_cons]
    exact ⟨rfl, rfl⟩
  have second : overrunningRules = overrunningRules.take 1 ++ overrunningRules[1] :: [] := rfl
  have read : tokenize overrunningRules "\n b" = .ok feedBlankLetter := by
    refine tokenize_eq_ok_iff.2 ⟨4, ?_, by decide⟩
    refine .cons (by decide) ⟨_, _, second, passes 0 (by simp), rfl⟩ rfl ?_
    refine .cons (by decide) ⟨[], _, rfl, fun _ mem => absurd mem List.not_mem_nil, rfl⟩ rfl ?_
    exact .cons (by decide) ⟨_, _, second, passes 2 (by simp), rfl⟩ rfl (.nil 4)
  have range : (-1 : Int) < 0 ∧ -(feedBlankLetter.length : Int) ≤ -1 := by decide
  obtain ⟨placed, indexed⟩ := positions_agree
  obtain ⟨_, _, _, _, each⟩ := placed overrunningRules "\n b" feedBlankLetter read
  obtain ⟨span, _, here⟩ := each 2 ⟨.number, "b"⟩ rfl
  have summed : Token.span? feedBlankLetter 2 = some ⟨2, 3⟩ := rfl
  cases Option.some.inj (here.summed.symm.trans summed)
  exact ⟨read, here, range, (indexed feedBlankLetter (-1)).2.2 range.1 range.2⟩

end Reckon
