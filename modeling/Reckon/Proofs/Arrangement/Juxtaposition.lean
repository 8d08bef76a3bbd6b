import Mathlib.Data.List.Chain
import Mathlib.Data.List.Induction
import Reckon.Proofs.Arrangement.Earliest

/-!
# Operands side by side

What `Arrangement.flaw?` finds wrong with a token is of two sorts.  The primary flaws have to do
with operators that lack an operand and with parentheses that close nothing.  The others are
juxtapositions: an operand directly behind another one, or a group with nothing in it.  The primary
check, `primaryCheck`, knows the primary flaws only, and at the end it asks for nothing but closed
groups.

At one token a primary flaw is found before a juxtaposition (`flaw?_eq`).  But the check goes from
token to token and stops at the first flaw of either sort.  So where the primary check has a fault,
the check has the same fault if no juxtaposition stands before it, and otherwise it has the first
juxtaposition instead (`check_of_primaryCheck_error`).  It is therefore not true that juxtapositions
change no fault of the primary check (`not_forall_check_of_primaryCheck_error`).

Both scans go through the same states as long as they go on, which is why tokens without
juxtapositions are scanned alike (`scan_of_separated`).
-/

namespace Reckon

namespace Arrangement

/-! ## Specification -/

/-- What is wrong with a token after the token before it, apart from juxtapositions. -/
def primaryFlaw? (depth : Nat) : Option TokenKind → TokenKind → Option Reason
  | some (.operator _), .closeParen => some .operatorBeforeClose
  | _, .closeParen => if depth = 0 then some .unbalanced else none
  | some (.operator _), .operator _ => some .adjacentOperators
  | some .openParen, .operator _ => some .operatorAfterOpen
  | none, .operator _ => some .leadingOperator
  | _, _ => none

/-- What is wrong with two tokens because the second stands directly behind the first. -/
def juxtaposition? : TokenKind → TokenKind → Option Reason
  | .openParen, .closeParen => some .emptyParens
  | .number, .number => some .missingOperator
  | .closeParen, .number => some .missingOperator
  | .closeParen, .openParen => some .missingOperator
  | _, _ => none

/-- The check that knows primary flaws and open groups only. -/
def primaryCheck (tokens : List Token) : Except Misplacement Unit :=
  scanBy primaryFlaw? start 0 tokens >>= fun reached =>
    if reached.depth ≠ 0 then .error ⟨.unbalanced, none⟩ else .ok ()

/-- Whether no token is juxtaposed to the one before it, blanks apart. -/
def Separated (tokens : List Token) : Prop :=
  (Token.withoutSpaces tokens).IsChain fun a b => juxtaposition? a.kind b.kind = none

/-- The tokens before the place where a fault shows; at the end, these are all. -/
def tokensBefore (fault : Misplacement) (tokens : List Token) : List Token :=
  match fault.index with
  | some index => tokens.take index
  | none => tokens

/-- Whether a fault is the first juxtaposition of tokens: those before it are separated, and the
token where it shows is juxtaposed to the last of them that is no blank. -/
def IsFirstJuxtaposition (fault : Misplacement) (tokens : List Token) : Prop :=
  ∃ front last token back, tokens = front ++ token :: back ∧ Separated front ∧
    (Token.withoutSpaces front).getLast? = some last ∧ ¬token.isSpace = true ∧
    juxtaposition? last.kind token.kind = some fault.reason ∧ fault.index = some front.length

/-! ## One token -/

/-- **At one token primary flaws come first.** -/
theorem flaw?_eq (depth : Nat) (last : Option TokenKind) (kind : TokenKind) :
    flaw? depth last kind =
      (primaryFlaw? depth last kind).or (last.bind (juxtaposition? · kind)) := by
  cases kind with
  | closeParen =>
    by_cases closed : depth = 0
    · rcases last with _ | _ | _ | _ | _ | _ <;> simp [flaw?, primaryFlaw?, closed]
    · rcases last with _ | _ | _ | _ | _ | _ <;>
        simp [flaw?, primaryFlaw?, juxtaposition?, closed]
  | number => rcases last with _ | _ | _ | _ | _ | _ <;> rfl
  | operator op => rcases last with _ | _ | _ | _ | _ | _ <;> rfl
  | openParen => rcases last with _ | _ | _ | _ | _ | _ <;> rfl
  | space => rcases last with _ | _ | _ | _ | _ | _ <;> rfl

theorem flaw?_of_primaryFlaw? {depth : Nat} {last : Option TokenKind} {kind : TokenKind}
    {reason : Reason} (h : primaryFlaw? depth last kind = some reason) :
    flaw? depth last kind = some reason := by
  rw [flaw?_eq, h, Option.some_or]

/-- What a juxtaposition is called. -/
theorem reason_of_juxtaposition? {a b : TokenKind} {reason : Reason}
    (h : juxtaposition? a b = some reason) : reason = .emptyParens ∨ reason = .missingOperator := by
  unfold juxtaposition? at h
  split at h <;> cases h
  · exact .inl rfl
  all_goals exact .inr rfl

/-! ## Separated tokens -/

section Lists

variable {front back tokens : List Token} {token : Token} {fault : Misplacement}

theorem separated_append_of_isSpace (space : token.isSpace = true) :
    Separated (front ++ [token]) ↔ Separated front := by
  rw [Separated, Token.withoutSpaces_append, Token.withoutSpaces_cons_of_isSpace space,
    Token.withoutSpaces_nil, List.append_nil]
  rfl

/-- One more token leaves tokens separated if it is not juxtaposed to the last of them. -/
theorem separated_append_of_not_isSpace (solid : ¬token.isSpace = true) :
    Separated (front ++ [token]) ↔ Separated front ∧
      ∀ last ∈ (Token.withoutSpaces front).getLast?,
        juxtaposition? last.kind token.kind = none := by
  rw [Separated, Token.withoutSpaces_append, Token.withoutSpaces_cons_of_not_isSpace solid,
    Token.withoutSpaces_nil, List.isChain_append]
  simp [Separated]

theorem separated_nil : Separated [] := List.IsChain.nil

/-- What a first juxtaposition is called. -/
theorem IsFirstJuxtaposition.reason (h : IsFirstJuxtaposition fault tokens) :
    fault.reason = .emptyParens ∨ fault.reason = .missingOperator := by
  obtain ⟨_, _, _, _, _, _, _, _, juxtaposed, _⟩ := h
  exact reason_of_juxtaposition? juxtaposed

/-- A juxtaposition shows at one of the tokens. -/
theorem IsFirstJuxtaposition.exists_index (h : IsFirstJuxtaposition fault tokens) :
    ∃ index, fault.index = some index ∧ index < tokens.length := by
  obtain ⟨front, last, token, back, rfl, _, _, _, _, place⟩ := h
  refine ⟨front.length, place, ?_⟩
  rw [List.length_append, List.length_cons]
  omega

/-- Tokens that are not separated have a first juxtaposition. -/
theorem exists_isFirstJuxtaposition (h : ¬Separated tokens) :
    ∃ fault, IsFirstJuxtaposition fault tokens := by
  induction tokens using List.reverseRecOn with
  | nil => exact absurd separated_nil h
  | append_singleton init token ih =>
    by_cases separated : Separated init
    · by_cases space : token.isSpace = true
      · exact absurd ((separated_append_of_isSpace space).2 separated) h
      · rw [separated_append_of_not_isSpace space, not_and] at h
        obtain ⟨last, juxtaposed⟩ := not_forall.1 (h separated)
        rw [Classical.not_imp] at juxtaposed
        obtain ⟨mem, juxtaposed⟩ := juxtaposed
        obtain ⟨reason, found⟩ := Option.ne_none_iff_exists'.1 juxtaposed
        exact ⟨⟨reason, some init.length⟩, init, last, token, [], rfl, separated, mem, space, found,
          rfl⟩
    · obtain ⟨fault, front, last, other, back, rfl, rest⟩ := ih separated
      refine ⟨fault, front, last, other, back ++ [token], ?_, rest⟩
      rw [List.append_assoc, List.cons_append]

end Lists

/-! ## The two scans -/

section Scans

variable {tokens front back : List Token} {reached : State} {fault : Misplacement}

/-- A scan knows the kind of the last token that is no blank. -/
theorem before_eq_getLast? (h : scan start 0 tokens = .ok reached) :
    reached.before = (Token.withoutSpaces tokens).getLast?.map Token.kind := by
  refine scan_induction (motive := fun tokens state => state.before =
    (Token.withoutSpaces tokens).getLast?.map Token.kind) rfl ?_ ?_ h
  · intro front state token holds space
    rw [Token.withoutSpaces_append, Token.withoutSpaces_cons_of_isSpace space,
      Token.withoutSpaces_nil, List.append_nil, holds]
  · intro front state token _ solid _
    rw [Token.withoutSpaces_append, Token.withoutSpaces_cons_of_not_isSpace solid,
      Token.withoutSpaces_nil, List.getLast?_append, List.getLast?_singleton]
    rfl

/-- **Separated tokens are scanned alike.** -/
theorem scan_of_separated (h : scanBy primaryFlaw? start 0 tokens = .ok reached)
    (separated : Separated tokens) : scan start 0 tokens = .ok reached := by
  refine scanBy_induction (motive := fun tokens state => Separated tokens →
    scan start 0 tokens = .ok state) (fun _ => rfl) ?_ ?_ h separated
  · intro front state token scanned space separated
    rw [scan_append_of_ok (scanned ((separated_append_of_isSpace space).1 separated)),
      scan_cons_of_isSpace space, scan_nil]
  · intro front state token scanned solid flawless separated
    obtain ⟨apart, beside⟩ := (separated_append_of_not_isSpace solid).1 separated
    have before := before_eq_getLast? (scanned apart)
    have none : flaw? state.depth state.before token.kind = none := by
      rw [flaw?_eq, flawless, Option.none_or, before]
      cases last : (Token.withoutSpaces front).getLast? with
      | none => rfl
      | some other => exact beside other last
    rw [scan_append_of_ok (scanned apart), scan_cons_of_no_flaw solid none, scan_nil, Nat.zero_add]

/-- Behind tokens that the primary scan goes through, the check stops at a first juxtaposition. -/
theorem check_of_isFirstJuxtaposition (h : scanBy primaryFlaw? start 0 front = .ok reached)
    (first : IsFirstJuxtaposition fault front) (back : List Token) :
    check (front ++ back) = .error fault := by
  obtain ⟨init, last, token, rest, rfl, separated, mem, solid, juxtaposed, place⟩ := first
  rw [scanBy_append] at h
  cases scanned : scanBy primaryFlaw? start 0 init with
  | error other =>
    rw [scanned] at h
    cases h
  | ok middle =>
    rw [scanned] at h
    have behind : scanBy primaryFlaw? middle (0 + init.length) (token :: rest) = .ok reached := h
    have alike := scan_of_separated scanned separated
    have flaw : flaw? middle.depth middle.before token.kind = some fault.reason := by
      have flawless : primaryFlaw? middle.depth middle.before token.kind = none := by
        cases primary : primaryFlaw? middle.depth middle.before token.kind with
        | none => rfl
        | some reason =>
          rw [scanBy_cons_of_flaw solid primary] at behind
          cases behind
      rw [flaw?_eq, flawless, Option.none_or, before_eq_getLast? alike, mem]
      exact juxtaposed
    rw [List.append_assoc, List.cons_append]
    exact check_append_of_flaw alike solid flaw place _

/-- A fault of the primary check shows at a token with a primary flaw, or at the end where a group
is open.  The tokens before it are scanned. -/
theorem primaryCheck_error_cases (h : primaryCheck tokens = .error fault) :
    (∃ token back reached, tokens = tokensBefore fault tokens ++ token :: back ∧
      scanBy primaryFlaw? start 0 (tokensBefore fault tokens) = .ok reached ∧
      ¬token.isSpace = true ∧
      primaryFlaw? reached.depth reached.before token.kind = some fault.reason ∧
      fault.index = some (tokensBefore fault tokens).length) ∨
    ∃ reached, tokensBefore fault tokens = tokens ∧
      scanBy primaryFlaw? start 0 tokens = .ok reached ∧ reached.depth ≠ 0 ∧
      fault = ⟨.unbalanced, none⟩ := by
  rw [primaryCheck] at h
  cases scanned : scanBy primaryFlaw? start 0 tokens with
  | error other =>
    rw [scanned] at h
    cases Except.error.inj h
    obtain ⟨front, token, back, reached, rfl, through, solid, flaw, place⟩ :=
      exists_of_scanBy_error scanned
    rw [Nat.zero_add] at place
    have same : tokensBefore fault (front ++ token :: back) = front := by
      rw [tokensBefore, place]
      exact List.take_left
    rw [same]
    exact .inl ⟨token, back, reached, rfl, through, solid, flaw, place⟩
  | ok reached =>
    rw [scanned] at h
    by_cases deep : reached.depth ≠ 0
    · have last : Except.error ⟨.unbalanced, none⟩ = Except.error fault :=
        (if_pos deep).symm.trans h
      cases last
      exact .inr ⟨reached, rfl, rfl, deep, rfl⟩
    · exact absurd ((if_neg deep).symm.trans h) (by simp)

/-- Where the tokens before a fault of the primary check are separated, the check has the same
fault. -/
theorem check_of_separated (h : primaryCheck tokens = .error fault)
    (separated : Separated (tokensBefore fault tokens)) : check tokens = .error fault := by
  rcases primaryCheck_error_cases h with
    ⟨next, rest, reached, all, scanned, solid, flaw, here⟩ | ⟨reached, all, scanned, deep, rfl⟩
  · rw [all]
    exact check_append_of_flaw (scan_of_separated scanned separated) solid
      (flaw?_of_primaryFlaw? flaw) here rest
  · rw [all] at separated
    rw [check, scan_of_separated scanned separated]
    exact if_pos deep

/-- Where they are not, the check stops at their first juxtaposition, which is another fault. -/
theorem exists_check_of_not_separated (h : primaryCheck tokens = .error fault)
    (mixed : ¬Separated (tokensBefore fault tokens)) :
    ∃ other, check tokens = .error other ∧ other ≠ fault ∧
      IsFirstJuxtaposition other (tokensBefore fault tokens) := by
  obtain ⟨other, first⟩ := exists_isFirstJuxtaposition mixed
  obtain ⟨index, place, earlier⟩ := first.exists_index
  rcases primaryCheck_error_cases h with
    ⟨next, rest, reached, all, scanned, -, -, here⟩ | ⟨reached, all, scanned, -, rfl⟩
  · refine ⟨other, ?_, ?_, first⟩
    · rw [all]
      exact check_of_isFirstJuxtaposition scanned first _
    · rintro rfl
      have same := Option.some.inj (place.symm.trans here)
      omega
  · refine ⟨other, ?_, ?_, first⟩
    · rw [all] at first
      have stopped := check_of_isFirstJuxtaposition scanned first []
      rwa [List.append_nil] at stopped
    · rintro rfl
      cases place

end Scans

/-! ## The main statement -/

/-- **Where the primary check has a fault, the check has the same one exactly if the tokens before
it are separated.**  Otherwise it has their first juxtaposition. -/
theorem check_of_primaryCheck_error {tokens : List Token} {fault : Misplacement}
    (h : primaryCheck tokens = .error fault) :
    (check tokens = .error fault ↔ Separated (tokensBefore fault tokens)) ∧
      (¬Separated (tokensBefore fault tokens) →
        ∃ other, check tokens = .error other ∧
          (other.reason = .emptyParens ∨ other.reason = .missingOperator) ∧
          IsFirstJuxtaposition other (tokensBefore fault tokens)) := by
  refine ⟨⟨fun checked => ?_, check_of_separated h⟩, fun mixed => ?_⟩
  · by_contra mixed
    obtain ⟨other, stopped, apart, -⟩ := exists_check_of_not_separated h mixed
    exact apart (Except.error.inj (stopped.symm.trans checked))
  · obtain ⟨other, stopped, -, first⟩ := exists_check_of_not_separated h mixed
    exact ⟨other, stopped, first.reason, first⟩

/-- A juxtaposition behind a primary flaw does not matter: of `2(3)+*4 5` both checks say that two
operators stand side by side. -/
theorem check_of_primaryCheck_error_behind :
    primaryCheck [⟨.number, "2"⟩, ⟨.openParen, "("⟩, ⟨.number, "3"⟩, ⟨.closeParen, ")"⟩,
      ⟨.operator .add, "+"⟩, ⟨.operator .mul, "*"⟩, ⟨.number, "4"⟩, ⟨.space, " "⟩,
      ⟨.number, "5"⟩] = .error ⟨.adjacentOperators, some 5⟩ ∧
    check [⟨.number, "2"⟩, ⟨.openParen, "("⟩, ⟨.number, "3"⟩, ⟨.closeParen, ")"⟩,
      ⟨.operator .add, "+"⟩, ⟨.operator .mul, "*"⟩, ⟨.number, "4"⟩, ⟨.space, " "⟩,
      ⟨.number, "5"⟩] = .error ⟨.adjacentOperators, some 5⟩ := by
  have primary : primaryCheck [⟨.number, "2"⟩, ⟨.openParen, "("⟩, ⟨.number, "3"⟩,
      ⟨.closeParen, ")"⟩, ⟨.operator .add, "+"⟩, ⟨.operator .mul, "*"⟩, ⟨.number, "4"⟩,
      ⟨.space, " "⟩, ⟨.number, "5"⟩] = .error ⟨.adjacentOperators, some 5⟩ := rfl
  have separated : Separated [⟨.number, "2"⟩, ⟨.openParen, "("⟩, ⟨.number, "3"⟩,
      ⟨.closeParen, ")"⟩, ⟨.operator .add, "+"⟩] := by
    simp [Separated, Token.withoutSpaces, Token.isSpace, juxtaposition?]
  exact ⟨primary, (check_of_primaryCheck_error primary).1.2 separated⟩

/-- **Juxtapositions do change faults of the primary check.**  In `1 2)` the parenthesis closes
nothing, but the check stops at the second number. -/
theorem not_forall_check_of_primaryCheck_error :
    ¬∀ tokens fault, primaryCheck tokens = .error fault → check tokens = .error fault := by
  intro claimed
  have primary : primaryCheck [⟨.number, "1"⟩, ⟨.space, " "⟩, ⟨.number, "2"⟩,
      ⟨.closeParen, ")"⟩] = .error ⟨.unbalanced, some 3⟩ := rfl
  have checked : check [⟨.number, "1"⟩, ⟨.space, " "⟩, ⟨.number, "2"⟩, ⟨.closeParen, ")"⟩] =
      .error ⟨.missingOperator, some 2⟩ := rfl
  have same := checked.symm.trans (claimed _ _ primary)
  exact absurd same (by decide)

end Arrangement

end Reckon
