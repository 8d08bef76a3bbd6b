import Reckon.Proofs.Arrangement.Grammar

/-!
# The first fault is as early as it can be

A scan that stops at a token has two things to answer for.  What stands before the token must
still have had a chance, and what stands up to it must have none.  The second is immediate,
because a scan that has stopped stays stopped (`scan_append_of_error`).  The first needs a
completion of every state a scan can be in, and there is a uniform one: a number, unless an
operand has just ended, and then a closing parenthesis for every group that is open
(`exists_completion`).

## Faults at the end

The other faults show only at the end of the tokens.  They are not beyond repair: a missing
operand or missing parentheses can be supplied, and the same completion does it.  Which of them
is reported depends on whether a parenthesis is left open, which `LeftOpen` says of the tokens
alone, without a count that runs along: the closing parentheses behind it never outnumber the
opening ones.  `leftOpen_iff` compares this with the depth that the scan arrives at.

The main statement, `check_earliest`, goes through the three shapes of a fault in turn.
-/

namespace Reckon

namespace Token

/-- How many opening parentheses there are. -/
def openings (tokens : List Token) : Nat := tokens.countP fun token => token.kind = .openParen

/-- How many closing parentheses there are. -/
def closings (tokens : List Token) : Nat := tokens.countP fun token => token.kind = .closeParen

/-- Whether a parenthesis is left open: none of the closing ones behind it is its own. -/
def LeftOpen (tokens : List Token) : Prop :=
  ∃ front token back, tokens = front ++ token :: back ∧ token.kind = .openParen ∧
    ∀ stretch, stretch <+: back → closings stretch ≤ openings stretch

/-- Whether every closing parenthesis closes one before it: no beginning closes more parentheses
than it opens. -/
def ClosesOpened (tokens : List Token) : Prop :=
  ∀ front, front <+: tokens → closings front ≤ openings front

@[simp] theorem openings_append (front back : List Token) :
    openings (front ++ back) = openings front + openings back := List.countP_append ..

@[simp] theorem closings_append (front back : List Token) :
    closings (front ++ back) = closings front + closings back := List.countP_append ..

theorem openings_cons (token : Token) (rest : List Token) :
    openings (token :: rest) = openings rest + if token.kind = .openParen then 1 else 0 := by
  simp [openings, List.countP_cons]

theorem closings_cons (token : Token) (rest : List Token) :
    closings (token :: rest) = closings rest + if token.kind = .closeParen then 1 else 0 := by
  simp [closings, List.countP_cons]

theorem LeftOpen.append_left {tokens : List Token} (h : LeftOpen tokens) (front : List Token) :
    LeftOpen (front ++ tokens) := by
  obtain ⟨before, token, back, rfl, kind, never⟩ := h
  exact ⟨front ++ before, token, back, (List.append_assoc ..).symm, kind, never⟩

/-- Where there are more opening parentheses than closing ones, one is left open. -/
theorem leftOpen_of_lt : ∀ {tokens : List Token}, closings tokens < openings tokens →
    LeftOpen tokens
  | [], h => absurd h (by simp [closings, openings])
  | token :: rest, h => by
    by_cases later : closings rest < openings rest
    · exact (leftOpen_of_lt later).append_left [token]
    · have kind : token.kind = .openParen := by
        rw [openings_cons, closings_cons] at h
        by_cases kind : token.kind = .openParen
        · exact kind
        · rw [if_neg kind] at h
          omega
      by_cases never : ∀ stretch, stretch <+: rest → closings stretch ≤ openings stretch
      · exact ⟨[], token, rest, rfl, kind, never⟩
      · -- the token is closed within `rest`, so one further on is left open
        obtain ⟨stretch, others⟩ := Classical.not_forall.1 never
        obtain ⟨⟨back, split⟩, closed⟩ := Classical.not_imp.1 others
        have fewer : closings back < openings back := by
          rw [openings_cons, closings_cons, kind, ← split, openings_append, closings_append] at h
          simp only [reduceCtorEq, ↓reduceIte] at h
          omega
        have shorter : back.length < (token :: rest).length := by
          rw [← split, List.length_cons, List.length_append]
          omega
        rw [← split]
        exact (leftOpen_of_lt fewer).append_left (token :: stretch)
termination_by tokens => tokens.length
decreasing_by
  · exact Nat.lt_succ_self _
  · exact shorter

/-- Where every closing parenthesis closes one before it, the counts tell whether one is left
open. -/
theorem ClosesOpened.leftOpen_iff {tokens : List Token} (h : ClosesOpened tokens) :
    LeftOpen tokens ↔ closings tokens < openings tokens := by
  refine ⟨?_, leftOpen_of_lt⟩
  rintro ⟨front, token, back, rfl, kind, never⟩
  have before : closings front ≤ openings front := h front (List.prefix_append ..)
  have behind : closings back ≤ openings back := never back (List.prefix_refl back)
  rw [openings_append, closings_append, openings_cons, closings_cons, kind]
  simp only [reduceCtorEq, ↓reduceIte]
  omega

end Token

namespace Arrangement

open Token (openings closings ClosesOpened LeftOpen)

/-! ## The depth -/

theorem ne_zero_of_flaw?_closeParen {depth : Nat} {before : Option TokenKind}
    (h : flaw? depth before .closeParen = none) : depth ≠ 0 := by
  rintro rfl
  unfold flaw? at h
  split at h <;> simp_all

/-- The depth is the surplus of opening parentheses. -/
theorem openings_eq_of_scan {tokens : List Token} {reached : State}
    (h : scan start 0 tokens = .ok reached) :
    openings tokens = closings tokens + reached.depth := by
  refine scan_induction (motive := fun tokens state =>
    openings tokens = closings tokens + state.depth) rfl ?_ ?_ h
  · intro front state token holds space
    have kind := Token.isSpace_eq_true_iff.1 space
    simp [openings, closings, kind] at holds ⊢
    exact holds
  · intro front state token holds _ flawless
    rw [Token.openings_append, Token.closings_append, holds, State.depth_after]
    cases kind : token.kind with
    | closeParen =>
      rw [kind] at flawless
      have := ne_zero_of_flaw?_closeParen flawless
      simp only [openings, closings, List.countP_singleton, kind, depthAfter, reduceCtorEq,
        decide_false, decide_true, Bool.false_eq_true, ↓reduceIte]
      omega
    | openParen => simp [openings, closings, kind, depthAfter]; omega
    | number => simp [openings, closings, kind, depthAfter]
    | operator op => simp [openings, closings, kind, depthAfter]
    | space => simp [openings, closings, kind, depthAfter]

/-- A beginning of scanned tokens is scanned. -/
theorem exists_scan_of_append {front back : List Token} {reached : State}
    (h : scan start 0 (front ++ back) = .ok reached) :
    ∃ middle, scan start 0 front = .ok middle := by
  cases scanned : scan start 0 front with
  | ok middle => exact ⟨middle, rfl⟩
  | error fault =>
    rw [scan_append_of_error scanned] at h
    exact absurd h (by simp)

/-- Where everything is scanned, every closing parenthesis closes one before it. -/
theorem closesOpened_of_scan {tokens : List Token} {reached : State}
    (h : scan start 0 tokens = .ok reached) : ClosesOpened tokens := by
  rintro front ⟨back, rfl⟩
  obtain ⟨middle, scanned⟩ := exists_scan_of_append h
  have surplus := openings_eq_of_scan scanned
  omega

/-- A parenthesis is left open exactly where the scan has counted one. -/
theorem leftOpen_iff {tokens : List Token} {reached : State}
    (h : scan start 0 tokens = .ok reached) : LeftOpen tokens ↔ reached.depth ≠ 0 := by
  rw [(closesOpened_of_scan h).leftOpen_iff, openings_eq_of_scan h]
  omega

/-! ## Completion -/

/-- Whether tokens can be continued to tokens in order. -/
def Completable (tokens : List Token) : Prop := ∃ more, check (tokens ++ more) = .ok ()

/-- Where an operand has ended, it is enough to close the open groups. -/
theorem scan_replicate_closeParen (state : State) (ends : EndsOperand state.before)
    (index : Nat) :
    ∃ reached, scan state index (List.replicate state.depth ⟨.closeParen, ")"⟩) = .ok reached ∧
      reached.depth = 0 ∧ EndsOperand reached.before := by
  cases deep : state.depth with
  | zero => exact ⟨state, rfl, deep, ends⟩
  | succ depth =>
    have closes : flaw? state.depth state.before .closeParen = none := by
      rw [deep]
      exact flaw?_closeParen ends
    have shallower : (state.after index .closeParen).depth = depth := by
      rw [State.depth_after, deep]
      rfl
    rw [List.replicate_succ, scan_cons_of_kind rfl (by simp) closes, ← shallower]
    exact scan_replicate_closeParen _ (.inr rfl) (index + 1)
termination_by state.depth
decreasing_by
  rw [shallower, deep]
  exact Nat.lt_succ_self depth

/-- Every state can be completed. -/
theorem exists_completion (state : State) (index : Nat) :
    ∃ more reached, scan state index more = .ok reached ∧ reached.depth = 0 ∧
      EndsOperand reached.before := by
  by_cases ends : EndsOperand state.before
  · obtain ⟨reached, scanned, done⟩ := scan_replicate_closeParen state ends index
    exact ⟨_, reached, scanned, done⟩
  · have flawless : flaw? state.depth state.before .number = none := by
      obtain ⟨number, closeParen⟩ := not_or.1 ends
      unfold flaw?
      split <;> simp_all
    obtain ⟨reached, scanned, done⟩ :=
      scan_replicate_closeParen (state.after index .number) (.inl rfl) (index + 1)
    refine ⟨⟨.number, "1"⟩ :: List.replicate state.depth ⟨.closeParen, ")"⟩, reached, ?_, done⟩
    rw [scan_cons_of_kind rfl (by simp) flawless]
    exact scanned

theorem check_append_of_scan {front back : List Token} {middle reached : State}
    (h : scan start 0 front = .ok middle) (rest : scan middle front.length back = .ok reached)
    (depth : reached.depth = 0) (ends : EndsOperand reached.before) :
    check (front ++ back) = .ok () := by
  refine check_eq_ok_iff_exists_scan.2 ⟨reached, ?_, depth, ends⟩
  rw [scan_append_of_ok h, Nat.zero_add]
  exact rest

/-- Whatever is scanned without a fault can be completed. -/
theorem completable_of_scan {tokens : List Token} {reached : State}
    (h : scan start 0 tokens = .ok reached) : Completable tokens := by
  obtain ⟨more, final, scanned, depth, ends⟩ := exists_completion reached tokens.length
  exact ⟨more, check_append_of_scan h scanned depth ends⟩

/-! ## The shapes of a fault -/

theorem ne_trailingOperator_of_flaw? {depth : Nat} {before : Option TokenKind}
    {kind : TokenKind} {reason : Reason} (h : flaw? depth before kind = some reason) :
    reason ≠ .trailingOperator := by
  rintro rfl
  unfold flaw? at h
  split at h <;> simp_all
  split at h <;> simp_all

theorem finish_error_cases {state : State} {fault : Misplacement}
    (h : finish state = .error fault) :
    (state.depth ≠ 0 ∧ fault = ⟨.unbalanced, none⟩) ∨
      (state.depth = 0 ∧ state.last = none ∧ fault = ⟨.emptyExpression, none⟩) ∨
      (state.depth = 0 ∧ ∃ op index, state.last = some (.operator op, index) ∧
        fault = ⟨.trailingOperator, some index⟩) := by
  unfold finish at h
  split at h
  · next deep => exact .inl ⟨deep, (Except.error.inj h).symm⟩
  · next flat =>
    have depth := Decidable.not_not.1 flat
    split at h
    · next last => exact .inr (.inl ⟨depth, last, (Except.error.inj h).symm⟩)
    · next op index last =>
      exact .inr (.inr ⟨depth, op, index, last, (Except.error.inj h).symm⟩)
    · exact absurd h (by simp)

/-- A fault is found at a token, behind tokens that are scanned, or at the end. -/
theorem check_error_cases {tokens : List Token} {fault : Misplacement}
    (h : check tokens = .error fault) :
    (∃ front token back reached, tokens = front ++ token :: back ∧
      scan start 0 front = .ok reached ∧ ¬token.isSpace = true ∧
      flaw? reached.depth reached.before token.kind = some fault.reason ∧
      fault.index = some front.length) ∨
    ∃ reached, scan start 0 tokens = .ok reached ∧ finish reached = .error fault := by
  rw [check] at h
  cases scanned : scan start 0 tokens with
  | error other =>
    rw [scanned] at h
    cases Except.error.inj h
    obtain ⟨front, token, back, reached, same, before, solid, flaw, place⟩ :=
      exists_of_scan_error scanned
    rw [Nat.zero_add] at place
    exact .inl ⟨front, token, back, reached, same, before, solid, flaw, place⟩
  | ok reached =>
    rw [scanned] at h
    exact .inr ⟨reached, rfl, h⟩

/-- Where the last token that is no blank stands. -/
def LastAt (tokens : List Token) (last : Option (TokenKind × Nat)) : Prop :=
  match last with
  | none => ∀ token ∈ tokens, token.isSpace = true
  | some (kind, index) => ∃ front token back, tokens = front ++ token :: back ∧
      token.kind = kind ∧ index = front.length ∧ ¬token.isSpace = true ∧
      ∀ blank ∈ back, blank.isSpace = true

/-- The scan knows where the last token that is no blank stands. -/
theorem lastAt_of_scan {tokens : List Token} {reached : State}
    (h : scan start 0 tokens = .ok reached) : LastAt tokens reached.last := by
  refine scan_induction (motive := fun tokens state => LastAt tokens state.last) ?_ ?_ ?_ h
  · intro token mem
    exact absurd mem List.not_mem_nil
  · intro front state token holds space
    cases last : state.last with
    | none =>
      rw [last] at holds
      intro other mem
      rcases List.mem_append.1 mem with mem | mem
      · exact holds other mem
      · rw [List.mem_singleton.1 mem]
        exact space
    | some place =>
      rw [last] at holds
      obtain ⟨before, solid, back, rfl, kind, index, isSolid, blank⟩ := holds
      refine ⟨before, solid, back ++ [token], ?_, kind, index, isSolid, ?_⟩
      · rw [List.append_assoc, List.cons_append]
      · intro other mem
        rcases List.mem_append.1 mem with mem | mem
        · exact blank other mem
        · rw [List.mem_singleton.1 mem]
          exact space
  · intro front state token _ solid _
    exact ⟨front, token, [], rfl, rfl, rfl, solid, fun _ mem => absurd mem List.not_mem_nil⟩

/-- The last token that a scan knows of is there, with nothing but blanks behind it. -/
theorem exists_of_last_eq_some {tokens : List Token} {reached : State} {kind : TokenKind}
    {index : Nat} (h : scan start 0 tokens = .ok reached)
    (last : reached.last = some (kind, index)) :
    ∃ front token back, tokens = front ++ token :: back ∧ token.kind = kind ∧
      index = front.length ∧ ¬token.isSpace = true ∧ ∀ blank ∈ back, blank.isSpace = true := by
  have lastAt := lastAt_of_scan h
  rw [last] at lastAt
  exact lastAt

/-- Without a last token there are only blanks. -/
theorem isSpace_of_last_eq_none {tokens : List Token} {reached : State}
    (h : scan start 0 tokens = .ok reached) (last : reached.last = none) :
    ∀ token ∈ tokens, token.isSpace = true := by
  have lastAt := lastAt_of_scan h
  rw [last] at lastAt
  exact lastAt

/-- The index of a fault is that of a token. -/
theorem index_lt_of_check_error {tokens : List Token} {fault : Misplacement} {index : Nat}
    (h : check tokens = .error fault) (place : fault.index = some index) :
    index < tokens.length := by
  rcases check_error_cases h with
    ⟨front, token, back, _, rfl, _, _, _, here⟩ | ⟨reached, scanned, last⟩
  · cases here.symm.trans place
    rw [List.length_append, List.length_cons]
    omega
  · rcases finish_error_cases last with ⟨_, rfl⟩ | ⟨_, _, rfl⟩ | ⟨_, op, here, trailing, rfl⟩
    · exact absurd place (by simp)
    · exact absurd place (by simp)
    · cases place
      obtain ⟨front, token, back, rfl, _, rfl, _⟩ := exists_of_last_eq_some scanned trailing
      rw [List.length_append, List.length_cons]
      omega

/-! ## What each shape says -/

/-- A token with a flaw decides, whatever follows. -/
theorem check_append_of_flaw {front : List Token} {token : Token} {reached : State}
    {fault : Misplacement} (scanned : scan start 0 front = .ok reached)
    (solid : ¬token.isSpace = true)
    (flaw : flaw? reached.depth reached.before token.kind = some fault.reason)
    (place : fault.index = some front.length) (more : List Token) :
    check (front ++ token :: more) = .error fault := by
  obtain ⟨reason, index⟩ := fault
  subst place
  rw [check, scan_append_of_ok scanned, Nat.zero_add, scan_cons_of_flaw solid flaw]
  rfl

/-- Tokens are beyond completion if whatever begins with them has a fault. -/
theorem not_completable_of_error {tokens : List Token} {fault : Misplacement}
    (h : ∀ more, check (tokens ++ more) = .error fault) : ¬Completable tokens := by
  rintro ⟨more, ok⟩
  rw [h] at ok
  exact absurd ok (by simp)

theorem take_length_succ (front back : List Token) (token : Token) :
    (front ++ token :: back).take (front.length + 1) = front ++ [token] := by
  rw [List.take_append, List.take_of_length_le (Nat.le_succ _), Nat.add_sub_cancel_left]
  rfl

theorem drop_length_succ (front back : List Token) (token : Token) :
    (front ++ token :: back).drop (front.length + 1) = back := by
  rw [List.drop_append, List.drop_eq_nil_of_le (Nat.le_succ _), Nat.add_sub_cancel_left]
  rfl

/-- Behind a trailing operator a number is all that is missing. -/
theorem check_append_number_of_scan {tokens : List Token} {reached : State}
    (scanned : scan start 0 tokens = .ok reached) (depth : reached.depth = 0) {op : Operator}
    (before : reached.before = some (.operator op)) {n : Token} (hn : n.kind = .number) :
    check (tokens ++ [n]) = .ok () := by
  have flawless : flaw? reached.depth reached.before .number = none :=
    flaw?_number (.inr (.inr ⟨op, before⟩))
  refine check_append_of_scan scanned (scan_cons_of_kind hn (by simp) flawless _ []) ?_ (.inl rfl)
  rw [State.depth_after, depth]
  rfl

/-- A trailing operator is the last token that is no blank, and no parenthesis is left open. -/
theorem exists_trailing_of_scan {tokens : List Token} {reached : State} {op : Operator}
    {index : Nat} (scanned : scan start 0 tokens = .ok reached) (depth : reached.depth = 0)
    (last : reached.last = some (.operator op, index)) :
    ∃ token, tokens[index]? = some token ∧ token.isOperator = true ∧
      (∀ blank ∈ tokens.drop (index + 1), blank.isSpace = true) ∧ ¬LeftOpen tokens ∧
      ∀ n : Token, n.kind = .number → check (tokens ++ [n]) = .ok () := by
  have closed : ¬LeftOpen tokens := fun opened => (leftOpen_iff scanned).1 opened depth
  have before : reached.before = some (.operator op) := by
    rw [State.before, last]
    rfl
  have completed (n : Token) (hn : n.kind = .number) : check (tokens ++ [n]) = .ok () :=
    check_append_number_of_scan scanned depth before hn
  obtain ⟨front, token, back, rfl, kind, rfl, _, blank⟩ := exists_of_last_eq_some scanned last
  refine ⟨token, ?_, Token.isOperator_eq_true_iff.2 ⟨op, kind⟩, ?_, closed, completed⟩
  · rw [List.getElem?_append_right (Nat.le_refl _), Nat.sub_self]
    rfl
  · rw [drop_length_succ]
    exact blank

/-- A parenthesis that is left open is no blank. -/
theorem not_isSpace_of_leftOpen {tokens : List Token} (h : LeftOpen tokens) :
    ¬∀ token ∈ tokens, token.isSpace = true := by
  intro blank
  obtain ⟨front, token, back, rfl, kind, _⟩ := h
  have space := blank token (List.mem_append_right _ (List.mem_cons_self ..))
  rw [Token.isSpace_eq_true_iff, kind] at space
  exact absurd space (by simp)

/-- At the end, which fault is found without a token tells what the tokens are like. -/
theorem finish_error_of_scan {tokens : List Token} {reached : State} {fault : Misplacement}
    (scanned : scan start 0 tokens = .ok reached) (h : finish reached = .error fault)
    (unplaced : fault.index = none) :
    (fault.reason = .unbalanced ∨ fault.reason = .emptyExpression) ∧
      (fault.reason = .unbalanced ↔ LeftOpen tokens) ∧
      (fault.reason = .emptyExpression ↔ ∀ token ∈ tokens, token.isSpace = true) := by
  rcases finish_error_cases h with ⟨deep, rfl⟩ | ⟨depth, empty, rfl⟩ | ⟨_, _, _, _, rfl⟩
  · have opened : LeftOpen tokens := (leftOpen_iff scanned).2 deep
    refine ⟨.inl rfl, ?_, ?_⟩
    · exact ⟨fun _ => opened, fun _ => rfl⟩
    · exact ⟨fun other => absurd other (by simp),
        fun blank => absurd blank (not_isSpace_of_leftOpen opened)⟩
  · have blank : ∀ token ∈ tokens, token.isSpace = true := isSpace_of_last_eq_none scanned empty
    refine ⟨.inr rfl, ?_, ?_⟩
    · exact ⟨fun other => absurd other (by simp),
        fun opened => absurd depth ((leftOpen_iff scanned).1 opened)⟩
    · exact ⟨fun _ => blank, fun _ => rfl⟩
  · exact absurd unplaced (by simp)

/-! ## The main statement -/

/-- **Faults are reported as early as they can be.**

A fault at a token, other than a trailing operator: what stands before the token can be
completed, what stands up to it cannot, and everything that begins like that has the same
fault.  A trailing operator: it is an operator with nothing but blanks behind it, no
parenthesis is left open, and any number completes the tokens.  A fault without a token: the
tokens can be completed, and which of the two faults it is tells whether a parenthesis is left
open or there are only blanks. -/
theorem check_earliest {tokens : List Token} {fault : Misplacement}
    (h : check tokens = .error fault) :
    (∀ index, fault.index = some index → fault.reason ≠ .trailingOperator →
      index < tokens.length ∧ Completable (tokens.take index) ∧
      ¬Completable (tokens.take (index + 1)) ∧
      ∀ other, tokens.take (index + 1) <+: other → check other = .error fault) ∧
    (fault.reason = .trailingOperator →
      ∃ index token, fault.index = some index ∧ tokens[index]? = some token ∧
        token.isOperator = true ∧ (∀ blank ∈ tokens.drop (index + 1), blank.isSpace = true) ∧
        ¬LeftOpen tokens ∧
        ∀ n : Token, n.kind = .number → check (tokens ++ [n]) = .ok ()) ∧
    (fault.index = none →
      Completable tokens ∧ (fault.reason = .unbalanced ∨ fault.reason = .emptyExpression) ∧
      (fault.reason = .unbalanced ↔ LeftOpen tokens) ∧
      (fault.reason = .emptyExpression ↔ ∀ token ∈ tokens, token.isSpace = true)) := by
  rcases check_error_cases h with
    ⟨front, token, back, reached, rfl, scanned, solid, flaw, place⟩ | ⟨reached, scanned, last⟩
  · have same (more : List Token) : check (front ++ [token] ++ more) = .error fault := by
      rw [List.append_assoc]
      exact check_append_of_flaw scanned solid flaw place more
    refine ⟨?_, fun trailing => absurd trailing (ne_trailingOperator_of_flaw? flaw), ?_⟩
    · intro index hindex _
      cases place.symm.trans hindex
      refine ⟨index_lt_of_check_error h place, ?_, ?_, ?_⟩
      · rw [List.take_left]
        exact completable_of_scan scanned
      · rw [take_length_succ]
        exact not_completable_of_error same
      · rintro other ⟨more, rfl⟩
        rw [take_length_succ]
        exact same more
    · intro unplaced
      exact absurd (place.symm.trans unplaced) (by simp)
  · refine ⟨?_, ?_, ?_⟩
    · intro index hindex other
      rcases finish_error_cases last with ⟨_, rfl⟩ | ⟨_, _, rfl⟩ | ⟨_, _, _, _, rfl⟩
      · exact absurd hindex (by simp)
      · exact absurd hindex (by simp)
      · exact absurd rfl other
    · intro trailing
      rcases finish_error_cases last with
        ⟨_, rfl⟩ | ⟨_, _, rfl⟩ | ⟨depth, op, index, hlast, rfl⟩
      · exact absurd trailing (by simp)
      · exact absurd trailing (by simp)
      · obtain ⟨token, found⟩ := exists_trailing_of_scan scanned depth hlast
        exact ⟨index, token, rfl, found⟩
    · intro unplaced
      exact ⟨completable_of_scan scanned, finish_error_of_scan scanned last unplaced⟩

/-- The three shapes of a fault: the parenthesis of `1+)`, the sign of `1- ` and the end of
`1(`. -/
theorem check_earliest_shapes :
    (check [⟨.number, "1"⟩, ⟨.operator .add, "+"⟩, ⟨.closeParen, ")"⟩] =
        .error ⟨.operatorBeforeClose, some 2⟩ ∧
      Completable [⟨.number, "1"⟩, ⟨.operator .add, "+"⟩] ∧
      ¬Completable [⟨.number, "1"⟩, ⟨.operator .add, "+"⟩, ⟨.closeParen, ")"⟩]) ∧
    (check [⟨.number, "1"⟩, ⟨.operator .sub, "-"⟩, ⟨.space, " "⟩] =
        .error ⟨.trailingOperator, some 1⟩ ∧
      ¬LeftOpen [⟨.number, "1"⟩, ⟨.operator .sub, "-"⟩, ⟨.space, " "⟩]) ∧
    (check [⟨.number, "1"⟩, ⟨.openParen, "("⟩] = .error ⟨.unbalanced, none⟩ ∧
      LeftOpen [⟨.number, "1"⟩, ⟨.openParen, "("⟩]) := by
  have misplaced : check [⟨.number, "1"⟩, ⟨.operator .add, "+"⟩, ⟨.closeParen, ")"⟩] =
      .error ⟨.operatorBeforeClose, some 2⟩ := rfl
  have trailing : check [⟨.number, "1"⟩, ⟨.operator .sub, "-"⟩, ⟨.space, " "⟩] =
      .error ⟨.trailingOperator, some 1⟩ := rfl
  have unclosed : check [⟨.number, "1"⟩, ⟨.openParen, "("⟩] = .error ⟨.unbalanced, none⟩ := rfl
  obtain ⟨-, before, upTo, -⟩ := (check_earliest misplaced).1 2 rfl (by decide)
  obtain ⟨_, _, -, -, -, -, closed, -⟩ := (check_earliest trailing).2.1 rfl
  obtain ⟨-, -, leftOpen, -⟩ := (check_earliest unclosed).2.2 rfl
  exact ⟨⟨misplaced, before, upTo⟩, ⟨trailing, closed⟩, unclosed, leftOpen.1 rfl⟩

end Arrangement

end Reckon
