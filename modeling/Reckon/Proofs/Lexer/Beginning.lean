import Mathlib.Data.List.Nodup
import Mathlib.Data.List.TakeDrop
import Reckon.Proofs.Lexer.Lexeme
import Reckon.Proofs.Lexer.Outcome

/-!
# The character that a token begins with

No two arithmetic rules find tokens that begin with the same character, so the next character
alone tells which rule decides: `kindBeginningWith?` names its kind.  Where a lexeme stands in a
source, and what follows does not extend it, the rule of its kind finds exactly this lexeme
(`run_of_isLexeme`), every other rule passes, and so that rule decides (`decides_of_isLexeme`).

Only numbers and blanks can be extended.  A number ends before a digit or a point, although the
point of `5.` belongs to it already: a second point would not extend the number, but nothing that
begins with a point is found either, so nothing is lost by asking for neither.
-/

namespace Reckon

/-- The kind of the tokens that begin with a character. -/
def kindBeginningWith? (c : Char) : Option TokenKind :=
  if c.isDigit then some .number
  else if c = '+' then some (.operator .add)
  else if c = '-' then some (.operator .sub)
  else if c = '*' then some (.operator .mul)
  else if c = '/' then some (.operator .div)
  else if c = '^' then some (.operator .pow)
  else if c = '(' then some .openParen
  else if c = ')' then some .closeParen
  else if c ∈ blanks.toList then some .space
  else none

/-- A character that tells a kind is, on its own, a lexeme of this kind. -/
theorem isLexeme_singleton {c : Char} {kind : TokenKind}
    (tells : kindBeginningWith? c = some kind) : Token.IsLexeme ⟨kind, String.singleton c⟩ := by
  unfold kindBeginningWith? at tells
  split at tells
  · next digit =>
    cases tells
    exact .whole (by simp) (by simpa using digit)
  -- the operators and the parentheses
  iterate 7
    split at tells
    · next same =>
      cases tells
      subst same
      rfl
  split at tells
  · next blank =>
    cases tells
    exact ⟨by simp, by simpa using blank⟩
  · cases tells

theorem kindBeginningWith?_eq_number_iff {c : Char} :
    kindBeginningWith? c = some .number ↔ c.isDigit = true := by
  constructor
  · intro tells
    have plain : Numeral.IsPlain (String.singleton c).toList := isLexeme_singleton tells
    obtain ⟨d, rest, begins, digit⟩ := plain.head
    rw [String.toList_singleton] at begins
    cases begins
    exact digit
  · exact fun digit => if_pos digit

theorem kindBeginningWith?_eq_space_iff {c : Char} :
    kindBeginningWith? c = some .space ↔ c ∈ blanks.toList := by
  constructor
  · intro tells
    exact (isLexeme_singleton tells).2 c (by simp)
  · intro mem
    have blank : c = ' ' ∨ c = '\t' ∨ c = '\n' ∨ c = '\r' := by
      simpa [blanks] using mem
    rcases blank with rfl | rfl | rfl | rfl <;> rfl

namespace Token

/-- Whether what follows a token does not extend it. -/
def EndsBefore (token : Token) (following : List Char) : Prop :=
  ∀ c ∈ following.head?,
    (token.kind = .number → c.isDigit = false ∧ c ≠ '.') ∧
      (token.kind = .space → c ∉ blanks.toList)

/-- A lexeme begins with a character that tells its kind. -/
theorem IsLexeme.exists_cons {token : Token} (h : token.IsLexeme) :
    ∃ c rest, token.text.toList = c :: rest ∧ kindBeginningWith? c = some token.kind := by
  obtain ⟨kind, text⟩ := token
  cases kind with
  | number =>
    obtain ⟨c, rest, begins, digit⟩ := Numeral.IsPlain.head h
    exact ⟨c, rest, begins, kindBeginningWith?_eq_number_iff.2 digit⟩
  | operator op =>
    have spelled : text = op.symbol := h
    subst spelled
    cases op <;> exact ⟨_, [], rfl, rfl⟩
  | openParen =>
    have spelled : text = "(" := h
    subst spelled
    exact ⟨_, [], rfl, rfl⟩
  | closeParen =>
    have spelled : text = ")" := h
    subst spelled
    exact ⟨_, [], rfl, rfl⟩
  | space =>
    obtain ⟨some_text, blank⟩ : text ≠ "" ∧ ∀ c ∈ text.toList, c ∈ blanks.toList := h
    cases begins : text.toList with
    | nil => exact absurd (String.toList_eq_nil_iff.1 begins) some_text
    | cons c rest =>
      have mem : c ∈ blanks.toList := blank c (by rw [begins]; exact List.mem_cons_self ..)
      exact ⟨c, rest, rfl, kindBeginningWith?_eq_space_iff.2 mem⟩

theorem IsLexeme.toList_ne_nil {token : Token} (h : token.IsLexeme) : token.text.toList ≠ [] := by
  obtain ⟨c, rest, begins, _⟩ := h.exists_cons
  rw [begins]
  exact List.cons_ne_nil _ _

end Token

/-! ## Readings that end where they should -/

namespace Cursor

/-- A run that ends before the first character outside its class. -/
theorem readRun_eq {cursor : Cursor} {inClass : Char → Bool} {run following : List Char}
    (ahead : cursor.rest = run ++ following) (inside : ∀ c ∈ run, inClass c = true)
    (outside : ∀ c ∈ following.head?, inClass c = false) :
    cursor.readRun inClass =
      (String.ofList run, { cursor with position := cursor.position + run.length }) := by
  have front : following.takeWhile inClass = [] := by
    cases following with
    | nil => rfl
    | cons c rest => exact List.takeWhile_cons_of_neg (by simp [outside c rfl])
  have longest : cursor.rest.takeWhile inClass = run := by
    rw [ahead, List.takeWhile_append_of_pos inside, front, List.append_nil]
  refine Prod.ext ?_ ?_
  · rw [readRun_fst, longest]
  · show ({ cursor with position := runEnd inClass cursor.source cursor.position } : Cursor) = _
    rw [runEnd_eq]
    exact congrArg (fun run => ({ cursor with position := cursor.position + run.length } : Cursor))
      longest

/-- The character at the offset of a fresh cursor stands ahead of it. -/
theorem mem_head?_rest_begin {source : Array Char} {offset : Nat} {c : Char}
    (here : source.toList[offset]? = some c) : c ∈ (begin source offset).rest.head? := by
  rw [rest, List.head?_drop]
  exact here

/-- A run reads something where a character of its class stands ahead. -/
theorem readRun_ne_empty {cursor : Cursor} {inClass : Char → Bool} {c : Char}
    (here : c ∈ cursor.rest.head?) (inside : inClass c = true) :
    (cursor.readRun inClass).1 ≠ "" := by
  obtain ⟨more, ahead⟩ := List.head?_eq_some_iff.1 here
  rw [readRun_fst, ahead, List.takeWhile_cons_of_pos inside, Ne, String.ofList_eq_empty_iff]
  exact List.cons_ne_nil _ _

/-- A number is read where a digit stands ahead. -/
theorem readNumber_ne_empty {cursor : Cursor} {c : Char} (here : c ∈ cursor.rest.head?)
    (digit : c.isDigit = true) : cursor.readNumber.1 ≠ "" := by
  have some_digit := readRun_ne_empty here digit
  unfold readNumber
  dsimp only
  rw [if_neg some_digit]
  split
  · intro empty
    rw [String.append_eq_empty_iff, String.append_eq_empty_iff] at empty
    exact some_digit empty.1.1
  · exact some_digit

/-- A wanted character that stands ahead. -/
theorem readChar_eq {cursor : Cursor} {c : Char} {following : List Char}
    (ahead : cursor.rest = c :: following) :
    cursor.readChar (String.singleton c) =
      (true, { cursor with position := cursor.position + 1 }) := by
  have same : cursor.ahead = String.singleton c := by
    rw [ahead_eq, ahead]
    rfl
  rw [readChar, if_pos same]

/-- A wanted character that does not stand ahead. -/
theorem readChar_of_ne {cursor : Cursor} {c : Char} (other : cursor.rest.head? ≠ some c) :
    cursor.readChar (String.singleton c) = (false, cursor) := by
  have different : cursor.ahead ≠ String.singleton c := by
    rw [ahead_eq]
    cases head : cursor.rest.head? with
    | none => exact fun h => absurd (congrArg String.toList h) (by simp)
    | some d =>
      rw [head] at other
      intro same
      have chars : [d] = [c] := by
        simpa using congrArg String.toList same
      exact other (congrArg some (List.head_eq_of_cons_eq chars))
  rw [readChar, if_neg different]

/-- What is left behind a stretch that has been read. -/
theorem rest_eq_of_append {cursor : Cursor} {read following : List Char}
    (ahead : cursor.rest = read ++ following) :
    ({ cursor with position := cursor.position + read.length } : Cursor).rest = following := by
  show cursor.source.toList.drop (cursor.position + read.length) = following
  rw [← List.drop_drop]
  exact (congrArg (List.drop read.length) ahead).trans (List.drop_left ..)

/-- A number that ends before what is no digit and no point. -/
theorem readNumber_eq {cursor : Cursor} {text following : List Char}
    (ahead : cursor.rest = text ++ following) (plain : Numeral.IsPlain text)
    (outside : ∀ c ∈ following.head?, c.isDigit = false ∧ c ≠ '.') :
    cursor.readNumber =
      (String.ofList text, { cursor with position := cursor.position + text.length }) := by
  cases plain with
  | @whole digits some_digit hdigits =>
    have stop : ∀ c ∈ following.head?, c.isDigit = false := fun c mem => (outside c mem).1
    have no_point : ({ cursor with position := cursor.position + text.length } : Cursor).rest.head?
        ≠ some '.' := by
      rw [rest_eq_of_append ahead]
      exact fun point => (outside '.' point).2 rfl
    have some_text : String.ofList text ≠ "" := by
      rwa [Ne, String.ofList_eq_empty_iff]
    have behind := readChar_of_ne no_point
    rw [show String.singleton '.' = "." from rfl] at behind
    simp only [readNumber, readRun_eq ahead hdigits stop, some_text, ↓reduceIte, behind,
      Bool.false_eq_true]
  | @pointed digits fraction some_digit hdigits hfraction =>
    have split : cursor.rest = digits ++ '.' :: (fraction ++ following) := by
      rw [ahead, List.append_assoc, List.cons_append]
    have stop : ∀ c ∈ ('.' :: (fraction ++ following)).head?, c.isDigit = false := by
      rintro c mem
      cases Option.some.inj mem
      rfl
    have some_text : String.ofList digits ≠ "" := by
      rwa [Ne, String.ofList_eq_empty_iff]
    have point := readChar_eq (rest_eq_of_append split)
    rw [show String.singleton '.' = "." from rfl] at point
    have behindPoint : ({ cursor with position := cursor.position + digits.length + 1 } :
        Cursor).rest = fraction ++ following := by
      have split' : cursor.rest = (digits ++ ['.']) ++ (fraction ++ following) := by
        rw [split, List.append_assoc, List.singleton_append]
      have behind := rest_eq_of_append split'
      rwa [List.length_append, ← Nat.add_assoc] at behind
    have rest := readRun_eq behindPoint hfraction fun c mem => (outside c mem).1
    have text : String.ofList digits ++ "." ++ String.ofList fraction =
        String.ofList (digits ++ '.' :: fraction) := by
      rw [← String.toList_inj]
      simp
    have length : cursor.position + digits.length + 1 + fraction.length =
        cursor.position + (digits ++ '.' :: fraction).length := by
      rw [List.length_append, List.length_cons]
      omega
    simp only [readNumber, readRun_eq split hdigits stop, some_text, ↓reduceIte, point, rest, text,
      length]

end Cursor

/-! ## The rule that decides -/

namespace Lexer

variable {source : Array Char} {offset : Nat}

/-- An arithmetic rule finds nothing where another kind of token begins. -/
theorem kindBeginningWith?_of_run {rule : Rule} (mem : rule ∈ arithmeticRules) {found : Match}
    (run : rule.matcher.run (.begin source offset) = some found) :
    ∃ c, source[offset]? = some c ∧ kindBeginningWith? c = some rule.kind := by
  obtain ⟨token, after, rfl, kind, text, some_text, lexeme⟩ :=
    yields_arithmeticRules rule mem source offset found run
  have reaches := rule.matcher.reaches run
  obtain ⟨c, rest, begins, tells⟩ := lexeme.exists_cons
  refine ⟨c, ?_, kind ▸ tells⟩
  have read : (source.extract offset after.position).toList = c :: rest := by
    rw [← begins, text, Cursor.text, String.toList_ofList, reaches.source, reaches.start]
    rfl
  have head := congrArg List.head? read
  rw [Array.toList_extract, List.extract_eq_take_drop, List.head?_take, List.head?_drop,
    Array.getElem?_toList] at head
  split at head
  · exact absurd head (by simp)
  · exact head

theorem run_number {text : String} {following : List Char} (plain : Numeral.IsPlain text.toList)
    (outside : ∀ c ∈ following.head?, c.isDigit = false ∧ c ≠ '.')
    (ahead : (Cursor.begin source offset).rest = text.toList ++ following) :
    Matcher.number.run (.begin source offset) =
      some (.token ⟨.number, text⟩ ⟨source, offset, offset + text.length⟩) := by
  have some_text : text ≠ "" := by
    obtain ⟨c, rest, begins, _⟩ := plain.head
    rintro rfl
    exact absurd begins (by simp)
  have read := Cursor.readNumber_eq ahead plain outside
  rw [String.ofList_toList, String.length_toList] at read
  simp only [Matcher.number, read, some_text, ↓reduceIte]
  rfl

theorem run_oneChar {want text : String} {kind : TokenKind} {following : List Char}
    (one : want.length = 1) (spelled : text = want)
    (ahead : (Cursor.begin source offset).rest = text.toList ++ following) :
    (Matcher.oneChar want kind).run (.begin source offset) =
      some (.token ⟨kind, text⟩ ⟨source, offset, offset + text.length⟩) := by
  subst spelled
  obtain ⟨c, single⟩ := List.length_eq_one_iff.1 (String.length_toList.trans one)
  have char : text = String.singleton c := by
    rw [← String.toList_inj, single, String.toList_singleton]
  rw [single, List.singleton_append] at ahead
  have read := Cursor.readChar_eq ahead
  rw [← char] at read
  simp only [Matcher.oneChar, read, ↓reduceIte, one]
  rfl

theorem run_charRun {characters text : String} {kind : TokenKind} {following : List Char}
    (some_text : text ≠ "") (inside : ∀ c ∈ text.toList, c ∈ characters.toList)
    (outside : ∀ c ∈ following.head?, c ∉ characters.toList)
    (ahead : (Cursor.begin source offset).rest = text.toList ++ following) :
    (Matcher.charRun characters kind).run (.begin source offset) =
      some (.token ⟨kind, text⟩ ⟨source, offset, offset + text.length⟩) := by
  have read : (Cursor.begin source offset).readRun (fun c => characters.toList.contains c) =
      (text, ⟨source, offset, offset + text.length⟩) := by
    have run := Cursor.readRun_eq ahead (fun c mem => List.contains_iff_mem.2 (inside c mem))
      (fun c mem => by simpa using outside c mem)
    rwa [String.ofList_toList, String.length_toList] at run
  simp only [Matcher.charRun, Cursor.readWhile, read, some_text, ↓reduceIte]

/-- **A rule finds the lexemes of its kind.** -/
theorem run_of_isLexeme {rule : Rule} (mem : rule ∈ arithmeticRules) {token : Token}
    (lexeme : token.IsLexeme) (kind : rule.kind = token.kind) {following : List Char}
    (ends : token.EndsBefore following)
    (ahead : (Cursor.begin source offset).rest = token.text.toList ++ following) :
    rule.matcher.run (.begin source offset) =
      some (.token token ⟨source, offset, offset + token.text.length⟩) := by
  obtain ⟨_, text⟩ := token
  subst kind
  simp only [arithmeticRules, List.mem_cons, List.not_mem_nil, or_false] at mem
  rcases mem with rfl | rfl | rfl | rfl | rfl | rfl | rfl | rfl | rfl
  · exact run_number lexeme (fun c mem => (ends c mem).1 rfl) ahead
  iterate 7 exact run_oneChar rfl lexeme ahead
  · exact run_charRun lexeme.1 lexeme.2 (fun c mem => (ends c mem).2 rfl) ahead

/-- Where every rule passes, there stands no blank. -/
theorem not_mem_blanks_of_passed {c : Char} (here : source.toList[offset]? = some c)
    (passed : ∀ rule ∈ arithmeticRules, rule.matcher.run (.begin source offset) = none) :
    c ∉ blanks.toList := by
  intro blank
  have mem : ⟨.space, .charRun blanks .space⟩ ∈ arithmeticRules := by simp [arithmeticRules]
  have run := passed _ mem
  have some_text := Cursor.readRun_ne_empty (Cursor.mem_head?_rest_begin here)
    (List.contains_iff_mem.2 blank)
  simp only [Matcher.charRun, Cursor.readWhile, some_text, ↓reduceIte] at run
  exact absurd run (by simp)

/-- Where every rule passes, there stands no digit. -/
theorem not_isDigit_of_passed {c : Char} (here : source.toList[offset]? = some c)
    (passed : ∀ rule ∈ arithmeticRules, rule.matcher.run (.begin source offset) = none) :
    ¬c.isDigit = true := by
  intro digit
  have mem : ⟨.number, .number⟩ ∈ arithmeticRules := by simp [arithmeticRules]
  have run := passed _ mem
  have some_text := Cursor.readNumber_ne_empty (Cursor.mem_head?_rest_begin here) digit
  simp only [Matcher.number, some_text, ↓reduceIte] at run
  exact absurd run (by simp)

/-- The arithmetic rules are for different kinds. -/
theorem nodup_kind_arithmeticRules : (arithmeticRules.map Rule.kind).Nodup := by
  simp [arithmeticRules]

/-- The rule for numbers finds what is read as a number. -/
theorem readNumber_of_run {rule : Rule} (mem : rule ∈ arithmeticRules)
    (number : rule.kind = .number) {token : Token} {after : Cursor}
    (run : rule.matcher.run (.begin source offset) = some (.token token after)) :
    (Cursor.begin source offset).readNumber.1 ≠ "" ∧
      token.text = (Cursor.begin source offset).readNumber.1 ∧
      after = (Cursor.begin source offset).readNumber.2 := by
  obtain rfl : rule = ⟨.number, .number⟩ :=
    List.inj_on_of_nodup_map nodup_kind_arithmeticRules mem (by simp [arithmeticRules]) number
  simp only [Matcher.number] at run
  split at run
  · exact absurd run (by simp)
  · next some_text =>
    cases Option.some.inj run
    exact ⟨some_text, rfl, rfl⟩

/-- **At most one arithmetic rule finds something**, and the next character tells which. -/
theorem exclusive_arithmeticRules : Exclusive arithmeticRules := by
  intro rule mem other mem' source offset found result run run'
  obtain ⟨c, here, tells⟩ := kindBeginningWith?_of_run mem run
  obtain ⟨d, there, tells'⟩ := kindBeginningWith?_of_run mem' run'
  cases here.symm.trans there
  have same : rule.kind = other.kind := Option.some.inj (tells.symm.trans tells')
  exact List.inj_on_of_nodup_map nodup_kind_arithmeticRules mem mem' same

/-- There is a rule for every kind. -/
theorem exists_mem_arithmeticRules (kind : TokenKind) :
    ∃ rule ∈ arithmeticRules, rule.kind = kind := by
  cases kind with
  | operator op => cases op <;> simp [arithmeticRules]
  | number => simp [arithmeticRules]
  | openParen => simp [arithmeticRules]
  | closeParen => simp [arithmeticRules]
  | space => simp [arithmeticRules]

/-- **Where every rule passes, no token begins.** -/
theorem kindBeginningWith?_eq_none_of_passed {c : Char} (here : source.toList[offset]? = some c)
    (passed : ∀ rule ∈ arithmeticRules, rule.matcher.run (.begin source offset) = none) :
    kindBeginningWith? c = none := by
  by_contra begins
  obtain ⟨kind, tells⟩ := Option.ne_none_iff_exists'.1 begins
  have lexeme := isLexeme_singleton tells
  obtain ⟨more, head⟩ := List.head?_eq_some_iff.1 (Cursor.mem_head?_rest_begin here)
  have ahead : (Cursor.begin source offset).rest = (String.singleton c).toList ++ more := by
    rw [head, String.toList_singleton, List.singleton_append]
  -- a number or blanks may go on, so that the character alone is not what would be found
  have ends : Token.EndsBefore ⟨kind, String.singleton c⟩ more := by
    refine fun d _ => ⟨fun number => ?_, fun space => ?_⟩
    · subst number
      exact absurd (kindBeginningWith?_eq_number_iff.1 tells) (not_isDigit_of_passed here passed)
    · subst space
      exact absurd (kindBeginningWith?_eq_space_iff.1 tells) (not_mem_blanks_of_passed here passed)
  obtain ⟨rule, mem, same⟩ := exists_mem_arithmeticRules kind
  have found := run_of_isLexeme mem lexeme same ends ahead
  exact absurd (found.symm.trans (passed rule mem)) (by simp)

/-- **A lexeme that stands in a source is found there**, by the rule of its kind, unless what
follows extends it. -/
theorem decides_of_isLexeme {token : Token} (lexeme : token.IsLexeme) {following : List Char}
    (ends : token.EndsBefore following)
    (ahead : (Cursor.begin source offset).rest = token.text.toList ++ following) :
    ∃ rule, rule.kind = token.kind ∧ Decides arithmeticRules source offset rule
      (.token token ⟨source, offset, offset + token.text.length⟩) := by
  obtain ⟨rule, mem, kind⟩ := exists_mem_arithmeticRules token.kind
  exact ⟨rule, kind, exclusive_arithmeticRules.decides_iff.2
    ⟨mem, run_of_isLexeme mem lexeme kind ends ahead⟩⟩

end Lexer

end Reckon
