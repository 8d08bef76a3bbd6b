import Reckon.Proofs.Arrangement.Scan

/-!
# The grammar that the scan accepts

The scan never builds anything: it compares each token with the one before and counts open
parentheses.  The arrangements that it lets through are nevertheless those of a grammar with
nesting,

    expression := operand (operator operand)*
    operand := number | '(' expression ')' | number '(' expression ')'

read over the tokens that are no blanks.  This is `check_eq_ok_iff`.

## From the grammar to the scan

A derived stretch passes from any state that awaits an operand, and leaves the number of open
groups as it was.  This is an induction on the derivation (`Derives.scan_eq_ok`).

## From the scan to the grammar

The other direction needs to know what the tokens before a state look like.  Each group that is
still open began where an operand was awaited, with a number before its parenthesis or none;
behind the last of these openings stands an unfinished expression, and how it is unfinished is
told by the kind of the last token alone.  `Viable` is this description, by cases on that kind,
and `viable_of_scan` says that the scan keeps it.  At the end no group is open and the last
token ends an operand, which leaves a whole expression.
-/

namespace Reckon

namespace Arrangement

/-- The two categories of the grammar. -/
inductive Category where
  | expression
  | operand
  deriving DecidableEq, Repr

/-- What the grammar derives from a category. -/
inductive Derives : Category → List Token → Prop where
  | number {n : Token} (hn : n.kind = .number) : Derives .operand [n]
  | group {l r : Token} {inner : List Token} (hl : l.kind = .openParen)
      (hinner : Derives .expression inner) (hr : r.kind = .closeParen) :
      Derives .operand (l :: (inner ++ [r]))
  | multiple {n l r : Token} {inner : List Token} (hn : n.kind = .number)
      (hl : l.kind = .openParen) (hinner : Derives .expression inner)
      (hr : r.kind = .closeParen) : Derives .operand (n :: l :: (inner ++ [r]))
  | operand {only : List Token} (honly : Derives .operand only) : Derives .expression only
  | joined {front back : List Token} {o : Token} (hfront : Derives .expression front)
      (ho : o.isOperator = true) (hback : Derives .operand back) :
      Derives .expression (front ++ o :: back)

/-! ## What may stand next -/

/-- Whether a token can end an operand. -/
def EndsOperand (before : Option TokenKind) : Prop :=
  before = some .number ∨ before = some .closeParen

/-- Whether an operand may begin behind a token. -/
def AwaitsOperand (before : Option TokenKind) : Prop :=
  before = none ∨ before = some .openParen ∨ ∃ op, before = some (.operator op)

theorem flaw?_number {depth : Nat} {before : Option TokenKind} (h : AwaitsOperand before) :
    flaw? depth before .number = none := by
  rcases h with rfl | rfl | ⟨op, rfl⟩ <;> rfl

theorem flaw?_openParen {depth : Nat} {before : Option TokenKind} (h : AwaitsOperand before) :
    flaw? depth before .openParen = none := by
  rcases h with rfl | rfl | ⟨op, rfl⟩ <;> rfl

theorem flaw?_operator {depth : Nat} {before : Option TokenKind} (h : EndsOperand before)
    (op : Operator) : flaw? depth before (.operator op) = none := by
  rcases h with rfl | rfl <;> rfl

theorem flaw?_closeParen {depth : Nat} {before : Option TokenKind} (h : EndsOperand before) :
    flaw? (depth + 1) before .closeParen = none := by
  rcases h with rfl | rfl <;> simp [flaw?]

/-! ## From the grammar to the scan -/

theorem not_isSpace_of_kind {token : Token} {kind : TokenKind} (h : token.kind = kind)
    (solid : kind ≠ .space) : ¬token.isSpace = true := by
  rw [Token.isSpace_eq_true_iff, h]
  exact solid

/-- One token that may stand where it does. -/
theorem scan_cons_of_kind {state : State} {token : Token} {kind : TokenKind}
    (h : token.kind = kind) (solid : kind ≠ .space)
    (flawless : flaw? state.depth state.before kind = none) (index : Nat) (rest : List Token) :
    scan state index (token :: rest) = scan (state.after index kind) (index + 1) rest := by
  subst h
  exact scan_cons_of_no_flaw (not_isSpace_of_kind rfl solid) flawless index rest

/-- **A derived stretch passes.**  It may stand wherever an operand is awaited, and behind it
an operand has ended at the same depth. -/
theorem Derives.scan_eq_ok {category : Category} {tokens : List Token}
    (h : Derives category tokens) (state : State) (awaits : AwaitsOperand state.before)
    (index : Nat) :
    ∃ reached, scan state index tokens = .ok reached ∧ reached.depth = state.depth ∧
      EndsOperand reached.before := by
  induction h generalizing state index with
  | number hn =>
    rw [scan_cons_of_kind hn (by simp) (flaw?_number awaits)]
    exact ⟨_, rfl, rfl, .inl rfl⟩
  | @group l r inner hl _ hr ih =>
    obtain ⟨reached, scanned, depth, ends⟩ :=
      ih (state.after index .openParen) (.inr (.inl rfl)) (index + 1)
    have closes : flaw? reached.depth reached.before .closeParen = none := by
      rw [depth]
      exact flaw?_closeParen ends
    rw [scan_cons_of_kind hl (by simp) (flaw?_openParen awaits), scan_append_of_ok scanned,
      scan_cons_of_kind hr (by simp) closes]
    refine ⟨_, rfl, ?_, .inr rfl⟩
    rw [State.depth_after, depth]
    rfl
  | @multiple n l r inner hn hl _ hr ih =>
    obtain ⟨reached, scanned, depth, ends⟩ :=
      ih ((state.after index .number).after (index + 1) .openParen)
        (.inr (.inl rfl)) (index + 1 + 1)
    have closes : flaw? reached.depth reached.before .closeParen = none := by
      rw [depth]
      exact flaw?_closeParen ends
    rw [scan_cons_of_kind hn (by simp) (flaw?_number awaits),
      scan_cons_of_kind hl (by simp) rfl, scan_append_of_ok scanned,
      scan_cons_of_kind hr (by simp) closes]
    refine ⟨_, rfl, ?_, .inr rfl⟩
    rw [State.depth_after, depth]
    rfl
  | operand _ ih => exact ih state awaits index
  | @joined front back o _ ho _ ihFront ihBack =>
    obtain ⟨middle, scanned, depth, ends⟩ := ihFront state awaits index
    obtain ⟨op, hop⟩ := Token.isOperator_eq_true_iff.1 ho
    obtain ⟨reached, rest, depth', ends'⟩ :=
      ihBack (middle.after (index + front.length) (.operator op))
        (.inr (.inr ⟨op, rfl⟩)) (index + front.length + 1)
    rw [scan_append_of_ok scanned, scan_cons_of_kind hop (by simp) (flaw?_operator ends op), rest]
    exact ⟨reached, rfl, depth'.trans depth, ends'⟩

/-! ## From the scan to the grammar -/

/-- Tokens behind which an operand is awaited inside one group: none, or an expression and an
operator. -/
inductive Leads : List Token → Prop where
  | none : Leads []
  | operator {front : List Token} {o : Token} (hfront : Derives .expression front)
      (ho : o.isOperator = true) : Leads (front ++ [o])

/-- Tokens that end where a group has just been opened, with the number of groups open there.
Each group stands where an operand is awaited and may have a number before it. -/
inductive Opens : Nat → List Token → Prop where
  | none : Opens 0 []
  | group {depth : Nat} {outer lead : List Token} {l : Token} (houter : Opens depth outer)
      (hlead : Leads lead) (hl : l.kind = .openParen) :
      Opens (depth + 1) (outer ++ (lead ++ [l]))
  | multiple {depth : Nat} {outer lead : List Token} {n l : Token} (houter : Opens depth outer)
      (hlead : Leads lead) (hn : n.kind = .number) (hl : l.kind = .openParen) :
      Opens (depth + 1) (outer ++ (lead ++ [n, l]))

/-- What stands before a state, by the number of open groups and the kind of the last token. -/
inductive Viable : List Token → Nat → Option TokenKind → Prop where
  | start : Viable [] 0 none
  | opened {depth : Nat} {outer : List Token} (houter : Opens (depth + 1) outer) :
      Viable outer (depth + 1) (some .openParen)
  | operator {depth : Nat} {outer front : List Token} {o : Token} {op : Operator}
      (houter : Opens depth outer) (hfront : Derives .expression front)
      (ho : o.kind = .operator op) :
      Viable (outer ++ (front ++ [o])) depth (some (.operator op))
  | number {depth : Nat} {outer lead : List Token} {n : Token} (houter : Opens depth outer)
      (hlead : Leads lead) (hn : n.kind = .number) :
      Viable (outer ++ (lead ++ [n])) depth (some .number)
  | closed {depth : Nat} {outer front : List Token} (houter : Opens depth outer)
      (hfront : Derives .expression front) :
      Viable (outer ++ front) depth (some .closeParen)

/-- An operand completes what leads up to it to an expression. -/
theorem Leads.derives {lead back : List Token} (h : Leads lead) (hback : Derives .operand back) :
    Derives .expression (lead ++ back) := by
  cases h with
  | none => exact .operand hback
  | operator hfront ho =>
    rw [List.append_assoc]
    exact .joined hfront ho hback

/-- Where an operand is awaited, the tokens are openings and what leads up to the operand. -/
theorem Viable.exists_leads {tokens : List Token} {depth : Nat} {before : Option TokenKind}
    (h : Viable tokens depth before) (awaits : AwaitsOperand before) :
    ∃ outer lead, tokens = outer ++ lead ∧ Opens depth outer ∧ Leads lead := by
  cases h with
  | start => exact ⟨[], [], rfl, .none, .none⟩
  | opened houter => exact ⟨_, [], (List.append_nil _).symm, houter, .none⟩
  | operator houter hfront ho =>
    exact ⟨_, _, rfl, houter, .operator hfront (Token.isOperator_eq_true_iff.2 ⟨_, ho⟩)⟩
  | number => rcases awaits with h | h | ⟨op, h⟩ <;> exact absurd h (by simp)
  | closed => rcases awaits with h | h | ⟨op, h⟩ <;> exact absurd h (by simp)

/-- Where an operand has ended, the tokens are openings and an expression. -/
theorem Viable.exists_expression {tokens : List Token} {depth : Nat}
    {before : Option TokenKind} (h : Viable tokens depth before) (ends : EndsOperand before) :
    ∃ outer front, tokens = outer ++ front ∧ Opens depth outer ∧ Derives .expression front := by
  cases h with
  | number houter hlead hn => exact ⟨_, _, rfl, houter, hlead.derives (.number hn)⟩
  | closed houter hfront => exact ⟨_, _, rfl, houter, hfront⟩
  | start => rcases ends with h | h <;> exact absurd h (by simp)
  | opened => rcases ends with h | h <;> exact absurd h (by simp)
  | operator => rcases ends with h | h <;> exact absurd h (by simp)

/-- The kind of a last token settles whether an operand is awaited or has ended. -/
theorem Viable.awaits_or_ends {tokens : List Token} {depth : Nat} {before : Option TokenKind}
    (h : Viable tokens depth before) : AwaitsOperand before ∨ EndsOperand before := by
  cases h with
  | start => exact .inl (.inl rfl)
  | opened => exact .inl (.inr (.inl rfl))
  | operator => exact .inl (.inr (.inr ⟨_, rfl⟩))
  | number => exact .inr (.inl rfl)
  | closed => exact .inr (.inr rfl)

/-- A closing parenthesis ends the group that was opened last. -/
theorem Opens.close {depth : Nat} {outer inner : List Token} {r : Token}
    (h : Opens (depth + 1) outer) (hinner : Derives .expression inner)
    (hr : r.kind = .closeParen) :
    ∃ rest front, outer ++ (inner ++ [r]) = rest ++ front ∧ Opens depth rest ∧
      Derives .expression front := by
  cases h with
  | @group _ rest lead l houter hlead hl =>
    refine ⟨rest, lead ++ l :: (inner ++ [r]), ?_, houter, hlead.derives (.group hl hinner hr)⟩
    simp only [List.append_assoc, List.singleton_append]
  | @multiple _ rest lead n l houter hlead hn hl =>
    refine ⟨rest, lead ++ n :: l :: (inner ++ [r]), ?_, houter,
      hlead.derives (.multiple hn hl hinner hr)⟩
    simp only [List.append_assoc, List.cons_append, List.nil_append]

/-! ### The token that comes next

One lemma for each kind: what the absence of a flaw says about the token before. -/

theorem awaits_of_flaw?_number {depth : Nat} {before : Option TokenKind}
    (viable : AwaitsOperand before ∨ EndsOperand before)
    (h : flaw? depth before .number = none) : AwaitsOperand before := by
  rcases viable with awaits | rfl | rfl
  · exact awaits
  · exact absurd h (by simp [flaw?])
  · exact absurd h (by simp [flaw?])

theorem ends_of_flaw?_operator {depth : Nat} {before : Option TokenKind} {op : Operator}
    (viable : AwaitsOperand before ∨ EndsOperand before)
    (h : flaw? depth before (.operator op) = none) : EndsOperand before := by
  rcases viable with (rfl | rfl | ⟨other, rfl⟩) | ends
  · exact absurd h (by simp [flaw?])
  · exact absurd h (by simp [flaw?])
  · exact absurd h (by simp [flaw?])
  · exact ends

theorem awaits_or_number_of_flaw?_openParen {depth : Nat} {before : Option TokenKind}
    (viable : AwaitsOperand before ∨ EndsOperand before)
    (h : flaw? depth before .openParen = none) :
    AwaitsOperand before ∨ before = some .number := by
  rcases viable with awaits | rfl | rfl
  · exact .inl awaits
  · exact .inr rfl
  · exact absurd h (by simp [flaw?])

theorem ends_of_flaw?_closeParen {tokens : List Token} {depth : Nat}
    {before : Option TokenKind} (viable : Viable tokens depth before)
    (h : flaw? depth before .closeParen = none) :
    EndsOperand before ∧ ∃ outer, depth = outer + 1 := by
  cases viable with
  | start => exact absurd h (by simp [flaw?])
  | opened => exact absurd h (by simp [flaw?])
  | operator => exact absurd h (by simp [flaw?])
  | number =>
    refine ⟨.inl rfl, Nat.exists_eq_succ_of_ne_zero ?_⟩
    rintro rfl
    exact absurd h (by simp [flaw?])
  | closed =>
    refine ⟨.inr rfl, Nat.exists_eq_succ_of_ne_zero ?_⟩
    rintro rfl
    exact absurd h (by simp [flaw?])

/-- **A token without a flaw keeps the description.** -/
theorem Viable.step {tokens : List Token} {depth : Nat} {before : Option TokenKind}
    (h : Viable tokens depth before) {token : Token} (solid : ¬token.isSpace = true)
    (flawless : flaw? depth before token.kind = none) :
    Viable (tokens ++ [token]) (depthAfter depth token.kind) (some token.kind) := by
  cases kind : token.kind with
  | space => exact absurd (Token.isSpace_eq_true_iff.2 kind) solid
  | number =>
    rw [kind] at flawless
    obtain ⟨outer, lead, rfl, houter, hlead⟩ :=
      h.exists_leads (awaits_of_flaw?_number h.awaits_or_ends flawless)
    rw [List.append_assoc]
    exact .number houter hlead kind
  | operator op =>
    rw [kind] at flawless
    obtain ⟨outer, front, rfl, houter, hfront⟩ :=
      h.exists_expression (ends_of_flaw?_operator h.awaits_or_ends flawless)
    rw [List.append_assoc]
    exact .operator houter hfront kind
  | openParen =>
    rw [kind] at flawless
    rcases awaits_or_number_of_flaw?_openParen h.awaits_or_ends flawless with awaits | rfl
    · obtain ⟨outer, lead, rfl, houter, hlead⟩ := h.exists_leads awaits
      rw [List.append_assoc]
      exact .opened (.group houter hlead kind)
    · cases h with
      | @number _ outer lead n houter hlead hn =>
        rw [List.append_assoc, List.append_assoc]
        exact .opened (.multiple houter hlead hn kind)
  | closeParen =>
    rw [kind] at flawless
    obtain ⟨ends, outer, rfl⟩ := ends_of_flaw?_closeParen h flawless
    obtain ⟨openings, inner, rfl, houter, hinner⟩ := h.exists_expression ends
    obtain ⟨rest, front, same, hrest, hfront⟩ := houter.close hinner kind
    rw [List.append_assoc, same]
    exact .closed hrest hfront

/-- **What a scan has let through.** -/
theorem viable_of_scan {tokens : List Token} {reached : State}
    (h : scan start 0 tokens = .ok reached) :
    Viable (Token.withoutSpaces tokens) reached.depth reached.before := by
  refine scan_induction (motive := fun tokens state =>
    Viable (Token.withoutSpaces tokens) state.depth state.before) .start ?_ ?_ h
  · intro front state token holds space
    rw [Token.withoutSpaces_append, Token.withoutSpaces_cons_of_isSpace space,
      Token.withoutSpaces_nil, List.append_nil]
    exact holds
  · intro front state token holds solid flawless
    rw [Token.withoutSpaces_append, Token.withoutSpaces_cons_of_not_isSpace solid,
      Token.withoutSpaces_nil]
    exact holds.step solid flawless

/-! ## Acceptance -/

theorem finish_eq_ok {state : State} (depth : state.depth = 0) (ends : EndsOperand state.before) :
    finish state = .ok () := by
  obtain ⟨_, last⟩ := state
  subst depth
  rcases ends with h | h <;>
  · obtain ⟨⟨kind, index⟩, rfl, rfl⟩ := Option.map_eq_some_iff.1 h
    rfl

theorem exists_of_finish_eq_ok {state : State} (h : finish state = .ok ()) :
    state.depth = 0 ∧ ∃ kind, state.before = some kind ∧ ∀ op, kind ≠ .operator op := by
  unfold finish at h
  split at h
  · exact absurd h (by simp)
  · next depth =>
    refine ⟨Decidable.not_not.1 depth, ?_⟩
    split at h
    · exact absurd h (by simp)
    · exact absurd h (by simp)
    · next last other hlast =>
      obtain ⟨kind, index⟩ := last
      refine ⟨kind, by rw [State.before, hlast]; rfl, ?_⟩
      rintro op rfl
      exact other op index rfl

/-- Tokens are in order exactly when they are scanned to the end, with no group open there and
an operand behind. -/
theorem check_eq_ok_iff_exists_scan {tokens : List Token} :
    check tokens = .ok () ↔ ∃ reached, scan start 0 tokens = .ok reached ∧
      reached.depth = 0 ∧ EndsOperand reached.before := by
  constructor
  · intro h
    rw [check] at h
    cases scanned : scan start 0 tokens with
    | error fault =>
      rw [scanned] at h
      exact absurd h (by simp [bind, Except.bind])
    | ok reached =>
      rw [scanned] at h
      obtain ⟨depth, kind, before, other⟩ := exists_of_finish_eq_ok h
      refine ⟨reached, rfl, depth, ?_⟩
      have viable := viable_of_scan scanned
      rw [before, depth] at viable
      rw [before]
      generalize Token.withoutSpaces tokens = solid at viable
      cases viable with
      | operator => exact absurd rfl (other _)
      | number => exact .inl rfl
      | closed => exact .inr rfl
  · rintro ⟨reached, scanned, depth, ends⟩
    rw [check, scanned]
    exact finish_eq_ok depth ends

theorem opens_zero_iff {tokens : List Token} : Opens 0 tokens ↔ tokens = [] := by
  constructor
  · rintro ⟨⟩
    rfl
  · rintro rfl
    exact .none

/-- Tokens in order are an expression. -/
theorem derives_of_check {tokens : List Token} (h : check tokens = .ok ()) :
    Derives .expression (Token.withoutSpaces tokens) := by
  obtain ⟨reached, scanned, depth, ends⟩ := check_eq_ok_iff_exists_scan.1 h
  obtain ⟨outer, front, same, houter, hfront⟩ := (viable_of_scan scanned).exists_expression ends
  rw [depth, opens_zero_iff] at houter
  rw [same, houter]
  exact hfront

/-- An expression is in order. -/
theorem check_of_derives {tokens : List Token}
    (h : Derives .expression (Token.withoutSpaces tokens)) : check tokens = .ok () := by
  obtain ⟨reached, scanned, depth, ends⟩ := h.scan_eq_ok start (.inl rfl) 0
  obtain ⟨other, scanned', same⟩ := exists_scan_of_withoutSpaces scanned
  refine check_eq_ok_iff_exists_scan.2 ⟨other, scanned', ?_, ?_⟩
  · exact (congrArg Prod.fst same).trans depth
  · rw [show other.before = reached.before from congrArg Prod.snd same]
    exact ends

/-- **The scan accepts the grammar.**  Tokens are in order exactly when, without their blanks,
they are derived from an expression. -/
theorem check_eq_ok_iff (tokens : List Token) :
    check tokens = .ok () ↔ Derives .expression (Token.withoutSpaces tokens) :=
  ⟨derives_of_check, check_of_derives⟩

end Arrangement

end Reckon
