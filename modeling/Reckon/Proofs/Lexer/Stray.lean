import Mathlib.Data.List.DropRight
import Reckon.Proofs.Rejection.Place

/-!
# The symbol that no rule reads

Where a source cannot be read, the lexer names a symbol and its offset.  Which symbol that is can
be told from the source alone, without the rules.  A character is out of place if no token is
spelled with it, or if it is a point that belongs to no number: it has no digit directly before it,
or the digits there already stand behind a point.  `Stray` says this of a character and the text
before it, and the symbol that the lexer names is the first stray one of the source
(`tokenize_eq_unknownSymbol_iff`).

## The two halves

* No character of a source that is read is stray (`WellSpelled.not_strayAt_join`).  A point in
  such a source is the one point of a number, and what stands before a number is never continued
  by its digits.
* What stands behind the tokens found, where every rule passes, is stray
  (`Finds.strayAt_of_passed`).  The only character of the alphabet that begins no token is the
  point.  If the token before it is a number, then that number has a point of its own, or it
  would have been read on.

Only the text before a character decides whether it is stray, so the first half may be used for the
part of a source that comes before the symbol.
-/

namespace Reckon

/-- The characters that tokens are spelled with. -/
def alphabet : String := "0123456789+-*/^() \t\n\r."

/-- Whether a point behind a text belongs to no number: no digit stands directly before it, or a
point stands directly before the digits there. -/
def StrayPoint (before : List Char) : Prop :=
  before.rtakeWhile Char.isDigit = [] ∨ (before.rdropWhile Char.isDigit).getLast? = some '.'

/-- Whether a character behind a text is out of place. -/
def Stray (before : List Char) (c : Char) : Prop :=
  c ∉ alphabet.toList ∨ c = '.' ∧ StrayPoint before

/-- Whether the character at an offset of a source is out of place. -/
def StrayAt (source : String) (offset : Nat) : Prop :=
  ∃ c ∈ source.toList[offset]?, Stray (source.toList.take offset) c

instance (before : List Char) : Decidable (StrayPoint before) :=
  inferInstanceAs (Decidable (_ ∨ _))

instance (before : List Char) (c : Char) : Decidable (Stray before c) :=
  inferInstanceAs (Decidable (_ ∨ _))

instance (source : String) (offset : Nat) : Decidable (StrayAt source offset) :=
  Option.decidableExistsMem source.toList[offset]?

/-- Whether a character is stray depends on the text up to it alone. -/
theorem strayAt_take_iff {source : String} {stop offset : Nat} (h : offset < stop) :
    StrayAt (String.ofList (source.toList.take stop)) offset ↔ StrayAt source offset := by
  rw [StrayAt, StrayAt, String.toList_ofList, List.getElem?_take_of_lt h, List.take_take,
    Nat.min_eq_left (Nat.le_of_lt h)]

/-! ## The alphabet -/

/-- The digits belong to the alphabet. -/
theorem mem_alphabet_of_isDigit {c : Char} (h : c.isDigit = true) : c ∈ alphabet.toList := by
  have digits : ∀ n < 58, 48 ≤ n → Char.ofNat n ∈ alphabet.toList := by decide
  obtain ⟨low, high⟩ := Numeral.toNat_of_isDigit h
  have mem := digits c.toNat (Nat.lt_succ_of_le high) low
  rwa [Char.ofNat_toNat] at mem

/-- The alphabet holds the characters that a token can begin with, and the point. -/
theorem mem_alphabet_iff {c : Char} :
    c ∈ alphabet.toList ↔ kindBeginningWith? c ≠ none ∨ c = '.' := by
  constructor
  · intro mem
    have each : alphabet.toList.all fun c => kindBeginningWith? c != none || c == '.' := by decide
    simpa using List.all_eq_true.1 each c mem
  · rintro (begins | rfl)
    · by_contra outside
      have no_digit : ¬c.isDigit = true := fun digit => outside (mem_alphabet_of_isDigit digit)
      have others : ∀ d ∈ alphabet.toList, c ≠ d := by
        rintro d mem rfl
        exact outside mem
      have no_blank : c ∉ blanks.toList := by
        have blank : blanks.toList ⊆ alphabet.toList := by decide
        exact fun mem => others c (blank mem) rfl
      refine begins ?_
      simp only [kindBeginningWith?, if_neg no_digit, if_neg no_blank,
        if_neg (others '+' (by decide)), if_neg (others '-' (by decide)),
        if_neg (others '*' (by decide)), if_neg (others '/' (by decide)),
        if_neg (others '^' (by decide)), if_neg (others '(' (by decide)),
        if_neg (others ')' (by decide))]
    · decide

/-- Lexemes are spelled with the alphabet. -/
theorem Token.IsLexeme.mem_alphabet {token : Token} (h : token.IsLexeme) {c : Char}
    (mem : c ∈ token.text.toList) : c ∈ alphabet.toList := by
  refine mem_alphabet_iff.2 ((h.kind_of_mem mem).imp (fun tells => ?_) And.right)
  rw [tells]
  exact Option.some_ne_none _

/-! ## Points and digits -/

section Points

variable {front digits : List Char}

/-- Digits behind a text that does not end in a digit are all the digits at the end. -/
theorem rdropWhile_append_digits (hdigits : ∀ c ∈ digits, c.isDigit = true)
    (last : ∀ c ∈ front.getLast?, c.isDigit = false) :
    (front ++ digits).rdropWhile Char.isDigit = front := by
  induction digits using List.reverseRecOn with
  | nil =>
    rw [List.append_nil, List.rdropWhile_eq_self_iff]
    intro some_char digit
    rw [last _ (List.getLast?_eq_getLast_of_ne_nil some_char)] at digit
    exact absurd digit (by simp)
  | append_singleton init c ih =>
    rw [← List.append_assoc, List.rdropWhile_concat_pos _ _ _ (hdigits c (by simp))]
    exact ih fun d mem => hdigits d (List.mem_append_left _ mem)

/-- A point directly behind digits belongs to their number, unless they are continued before. -/
theorem not_strayPoint_append (some_digit : digits ≠ [])
    (hdigits : ∀ c ∈ digits, c.isDigit = true)
    (last : ∀ c ∈ front.getLast?, c.isDigit = false ∧ c ≠ '.') : ¬StrayPoint (front ++ digits) := by
  have before := rdropWhile_append_digits hdigits fun c mem => (last c mem).1
  rintro (no_digit | point)
  · have split := List.rdropWhile_append_rtakeWhile (p := Char.isDigit) (l := front ++ digits)
    rw [before, List.append_cancel_left_eq] at split
    exact some_digit (split.symm.trans no_digit)
  · rw [before] at point
    exact (last '.' point).2 rfl

/-- A point behind no digit is stray. -/
theorem strayPoint_of_getLast? {before : List Char}
    (last : ∀ c ∈ before.getLast?, c.isDigit = false) : StrayPoint before := by
  refine .inl (List.rtakeWhile_eq_nil_iff.2 fun some_char digit => ?_)
  rw [last _ (List.getLast?_eq_getLast_of_ne_nil some_char)] at digit
  exact absurd digit (by simp)

/-- A second point is stray. -/
theorem strayPoint_append_point (hdigits : ∀ c ∈ digits, c.isDigit = true) :
    StrayPoint (front ++ '.' :: digits) := by
  have before : (front ++ ['.'] ++ digits).rdropWhile Char.isDigit = front ++ ['.'] := by
    refine rdropWhile_append_digits hdigits fun c mem => ?_
    rw [List.getLast?_concat] at mem
    cases Option.some.inj mem
    rfl
  refine .inr ?_
  rw [List.append_cons, before, List.getLast?_concat]

end Points

/-- The point of a plain numeral stands behind the digits that it begins with. -/
theorem Numeral.IsPlain.digits_of_split {read rest : List Char}
    (h : IsPlain (read ++ '.' :: rest)) : read ≠ [] ∧ ∀ c ∈ read, c.isDigit = true := by
  have no_point {part : List Char} (hpart : ∀ c ∈ part, c.isDigit = true) : '.' ∉ part :=
    fun mem => absurd (hpart '.' mem) (by decide)
  generalize split : read ++ '.' :: rest = text at h
  cases h with
  | whole _ hdigits =>
    refine absurd ?_ (no_point hdigits)
    rw [← split]
    exact List.mem_append_right _ (List.mem_cons_self ..)
  | @pointed digits fraction some_digit hdigits hfraction =>
    obtain ⟨rfl, -, -⟩ :=
      (List.append_cons_inj_of_notMem (no_point hdigits) (no_point hfraction)).1 split.symm
    exact ⟨some_digit, hdigits⟩

/-! ## Sources that are read -/

namespace Token

/-- A character of what tokens make up stands in the text of one of them, behind the texts of those
before it. -/
theorem exists_split_of_join {tokens : List Token} {before behind : List Char} {c : Char}
    (h : (join tokens).toList = before ++ c :: behind) :
    ∃ front token back read rest, tokens = front ++ token :: back ∧
      token.text.toList = read ++ c :: rest ∧ before = (join front).toList ++ read := by
  induction tokens generalizing before with
  | nil => exact absurd h (by simp)
  | cons token others ih =>
    rw [join_cons, String.toList_append] at h
    rcases List.append_eq_append_iff.1 h with ⟨more, same, behind'⟩ | ⟨more, same, behind'⟩
    · obtain ⟨front, token', back, read, rest, rfl, text, rfl⟩ := ih behind'
      refine ⟨token :: front, token', back, read, rest, rfl, text, ?_⟩
      rw [same, join_cons, String.toList_append, List.append_assoc]
    · cases more with
      | nil =>
        have head : (join others).toList = [] ++ c :: behind := behind'.symm
        obtain ⟨front, token', back, read, rest, rfl, text, empty⟩ := ih head
        refine ⟨token :: front, token', back, read, rest, rfl, text, ?_⟩
        rw [join_cons, String.toList_append, same, List.append_nil, List.append_assoc, ← empty,
          List.append_nil]
      | cons d more =>
        obtain ⟨rfl, -⟩ := List.cons.inj behind'
        exact ⟨[], token, others, before, more, rfl, same, rfl⟩

/-- **Nothing is stray in a source that is read.** -/
theorem WellSpelled.not_strayAt_join {tokens : List Token} (h : WellSpelled tokens)
    (offset : Nat) : ¬StrayAt (join tokens) offset := by
  rintro ⟨c, here, stray⟩
  obtain ⟨before, behind, split, rfl⟩ := exists_split_of_getElem? here
  rw [split, List.take_left] at stray
  obtain ⟨front, token, back, read, rest, rfl, text, rfl⟩ := exists_split_of_join split
  have mem : c ∈ token.text.toList := by
    rw [text]
    exact List.mem_append_right _ (List.mem_cons_self ..)
  rcases stray with outside | ⟨rfl, point⟩
  · exact outside (h.isLexeme.mem_alphabet mem)
  · have number : token.kind = .number := by
      by_contra other
      exact (h.isLexeme.not_numeral other mem).2 rfl
    have plain : Numeral.IsPlain (read ++ '.' :: rest) := by
      have lexeme := h.isLexeme
      rwa [IsLexeme, number, text] at lexeme
    obtain ⟨some_digit, hdigits⟩ := plain.digits_of_split
    have whole := (h.isWhole number).1
    rw [spanBehind, take_width_join] at whole
    exact not_strayPoint_append some_digit hdigits whole point

end Token

/-! ## Where every rule passes -/

/-- A number that stands before a point has a point already. -/
theorem Cursor.point_mem_readNumber {cursor : Cursor} (some_text : cursor.readNumber.1 ≠ "")
    (behind : '.' ∈ cursor.readNumber.2.rest.head?) : '.' ∈ cursor.readNumber.1.toList := by
  unfold readNumber at some_text behind ⊢
  dsimp only at some_text behind ⊢
  split at some_text
  · exact absurd rfl some_text
  · next some_digit =>
    rw [if_neg some_digit] at behind ⊢
    split at behind
    · next point =>
      rw [if_pos point]
      simp
    · next no_point =>
      obtain ⟨more, ahead⟩ := List.head?_eq_some_iff.1 behind
      have read := readChar_eq ahead
      rw [show String.singleton '.' = "." from rfl] at read
      exact absurd (congrArg Prod.fst read) no_point

namespace Lexer

/-- A number that is found before a point has a point already. -/
theorem Decides.point_mem {source : Array Char} {offset : Nat} {rule : Rule} {token : Token}
    {after : Cursor} (decides : Decides arithmeticRules source offset rule (.token token after))
    (number : rule.kind = .number) (behind : '.' ∈ after.rest.head?) :
    '.' ∈ token.text.toList := by
  obtain ⟨some_text, text, rfl⟩ := readNumber_of_run decides.mem number decides.run
  rw [text]
  exact Cursor.point_mem_readNumber some_text behind

/-- A point behind tokens that are found up to it is stray. -/
theorem Finds.strayPoint {source : Array Char} {start stop : Nat} {tokens : List Token}
    (h : Finds arithmeticRules source start tokens stop) (here : source.toList[stop]? = some '.') :
    StrayPoint (Token.join tokens).toList := by
  have spelled := h.wellSpelled
  cases tokens using List.reverseRecOn with
  | nil => exact strayPoint_of_getLast? (by simp)
  | append_singleton init last =>
    have lexeme : last.IsLexeme := spelled.isLexeme
    have text : (Token.join (init ++ [last])).toList =
        (Token.join init).toList ++ last.text.toList := by
      simp
    rw [text]
    by_cases number : last.kind = .number
    · have plain : Numeral.IsPlain last.text.toList := by
        rwa [Token.IsLexeme, number] at lexeme
      generalize digits : last.text.toList = spelling at plain
      cases plain with
      | whole _ hdigits =>
        -- the number would have been read on with the point behind it
        have behind : '.' ∈ (Cursor.begin source stop).rest.head? :=
          Cursor.mem_head?_rest_begin here
        obtain ⟨middle, -, found⟩ := h.exists_of_append
        cases found with
        | cons _ decides kept rest =>
          cases rest
          obtain ⟨kind, -, -⟩ := breach?_eq_none_iff.1 kept
          have point := decides.point_mem (kind.symm.trans number) (by
            rw [Cursor.rest, decides.reaches.source]
            exact behind)
          rw [digits] at point
          exact absurd (hdigits '.' point) (by decide)
      | pointed _ _ hfraction =>
        rw [← List.append_assoc]
        exact strayPoint_append_point hfraction
    · refine strayPoint_of_getLast? fun c mem => ?_
      rw [List.getLast?_append_of_ne_nil _ lexeme.toList_ne_nil] at mem
      exact (lexeme.not_numeral number (List.mem_of_mem_getLast? mem)).1

/-- **What stands behind the tokens found, where every rule passes, is stray.** -/
theorem Finds.strayAt_of_passed {source : String} {stop : Nat} {front : List Token} {symbol : Char}
    (h : Finds arithmeticRules source.toList.toArray 0 front stop)
    (here : source.toList[stop]? = some symbol)
    (passed : ∀ rule ∈ arithmeticRules,
      rule.matcher.run (.begin source.toList.toArray stop) = none) : StrayAt source stop := by
  refine ⟨symbol, here, Decidable.or_iff_not_imp_left.2 fun known => ?_⟩
  have nothing := kindBeginningWith?_eq_none_of_passed here passed
  obtain rfl : symbol = '.' :=
    (mem_alphabet_iff.1 (Decidable.not_not.1 known)).resolve_left fun begins => begins nothing
  refine ⟨rfl, ?_⟩
  have before : source.toList.take stop = (Token.join front).toList := by
    rw [h.join_eq_take, String.toList_ofList]
  rw [before]
  exact h.strayPoint here

end Lexer

/-! ## The main statement -/

/-- A source that is read has no stray character. -/
theorem not_strayAt_of_tokenize {source : String} {tokens : List Token}
    (h : tokenize arithmeticRules source = .ok tokens) (offset : Nat) : ¬StrayAt source offset := by
  obtain ⟨spelled, rfl⟩ := tokenize_arithmeticRules_eq_ok_iff.1 h
  exact spelled.not_strayAt_join offset

/-- The symbol that no rule reads is the first stray character. -/
theorem strayAt_of_unknownSymbol {source : String} {symbol : Char} {offset : Nat}
    (h : tokenize arithmeticRules source = .error (.unknownSymbol symbol offset)) :
    source.toList[offset]? = some symbol ∧ StrayAt source offset ∧
      ∀ earlier < offset, ¬StrayAt source earlier := by
  obtain ⟨front, found, here, passed⟩ := exists_finds_of_unknownSymbol h
  refine ⟨here, found.strayAt_of_passed here passed, fun earlier before => ?_⟩
  rw [← strayAt_take_iff before, ← found.join_eq_take]
  exact found.wellSpelled.not_strayAt_join earlier

/-- **The symbol that no rule reads.**  A source cannot be read exactly if a character of it is
stray, and then the lexer names the first stray character and its offset. -/
theorem tokenize_eq_unknownSymbol_iff (source : String) :
    ((∃ symbol offset,
        tokenize arithmeticRules source = .error (.unknownSymbol symbol offset)) ↔
      ∃ offset, StrayAt source offset) ∧
    ∀ symbol offset,
      tokenize arithmeticRules source = .error (.unknownSymbol symbol offset) ↔
        source.toList[offset]? = some symbol ∧ StrayAt source offset ∧
          ∀ earlier < offset, ¬StrayAt source earlier := by
  have unread {offset : Nat} (stray : StrayAt source offset) : ∃ symbol offset,
      tokenize arithmeticRules source = .error (.unknownSymbol symbol offset) := by
    refine (tokenize_of_yields yields_arithmeticRules source).resolve_left ?_
    rintro ⟨tokens, read, -⟩
    exact not_strayAt_of_tokenize read offset stray
  refine ⟨⟨?_, fun ⟨_, stray⟩ => unread stray⟩, fun symbol offset =>
    ⟨strayAt_of_unknownSymbol, ?_⟩⟩
  · rintro ⟨symbol, offset, unknown⟩
    exact ⟨offset, (strayAt_of_unknownSymbol unknown).2.1⟩
  · rintro ⟨here, stray, first⟩
    obtain ⟨other, place, unknown⟩ := unread stray
    obtain ⟨there, stray', first'⟩ := strayAt_of_unknownSymbol unknown
    -- both offsets are the first with a stray character
    obtain rfl : place = offset := Nat.le_antisymm
      (Nat.le_of_not_lt fun before => first' offset before stray)
      (Nat.le_of_not_lt fun before => first place before stray')
    cases here.symm.trans there
    exact unknown

example : StrayAt "5.+1.2.3" 6 ∧ ∀ earlier < 6, ¬StrayAt "5.+1.2.3" earlier := by decide

end Reckon
