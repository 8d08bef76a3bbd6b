import Reckon.Arrangement

/-!
# What a scan has seen

`Arrangement.scan` carries three things from token to token: the number of open groups, the
kind of the last token that is no blank, and that token's index.  This file says how the scan
goes over a list that is put together from parts, and packages the two ways of arguing about
it.

## Reached states

`scan_induction` is the invariant rule: what holds before any token, is kept by a blank and is
kept by a token without a flaw holds of every state that a scan reaches.  `exists_of_scan_error`
is its counterpart for a scan that stops: the tokens before the fault are scanned, and the next
token has a flaw there.  Both hold of the scan by any rule for what is wrong with a token, `scanBy`,
and are proved there.

## Blanks

Only the first two of the three things decide about acceptance, and blanks touch neither.  The
pair is the `view` of a state, and `verdict_scan_withoutSpaces` says that dropping the blanks
changes neither the view that is reached nor the reason for stopping.
-/

namespace Reckon

namespace Token

/-- The tokens that are no blanks. -/
def withoutSpaces (tokens : List Token) : List Token := tokens.filter fun token => !token.isSpace

@[simp] theorem withoutSpaces_nil : withoutSpaces [] = [] := rfl

theorem withoutSpaces_cons_of_isSpace {token : Token} (h : token.isSpace = true)
    (rest : List Token) : withoutSpaces (token :: rest) = withoutSpaces rest := by
  simp [withoutSpaces, h]

theorem withoutSpaces_cons_of_not_isSpace {token : Token} (h : ¬token.isSpace = true)
    (rest : List Token) : withoutSpaces (token :: rest) = token :: withoutSpaces rest := by
  simp [withoutSpaces, h]

@[simp] theorem withoutSpaces_append (front back : List Token) :
    withoutSpaces (front ++ back) = withoutSpaces front ++ withoutSpaces back :=
  List.filter_append ..

theorem isSpace_eq_true_iff {token : Token} : token.isSpace = true ↔ token.kind = .space := by
  simp [isSpace]

theorem isOperator_eq_true_iff {token : Token} :
    token.isOperator = true ↔ ∃ op, token.kind = .operator op := by
  unfold isOperator
  cases token.kind <;> simp

end Token

namespace Arrangement

/-- The kind of the last token that is no blank. -/
def State.before (state : State) : Option TokenKind := state.last.map Prod.fst

/-- What a state says about acceptance. -/
def State.view (state : State) : Nat × Option TokenKind := (state.depth, state.before)

/-- The state behind a token that is no blank and stands at an index. -/
def State.after (state : State) (index : Nat) (kind : TokenKind) : State :=
  ⟨depthAfter state.depth kind, some (kind, index)⟩

@[simp] theorem State.depth_after (state : State) (index : Nat) (kind : TokenKind) :
    (state.after index kind).depth = depthAfter state.depth kind := rfl

/-! ## Scans by a rule

What is wrong with a token may be said by another rule than `flaw?`.  The scan by a rule is the
same otherwise, and the scan of an arrangement is the scan by `flaw?`. -/

section Rule

variable {flawed : Nat → Option TokenKind → TokenKind → Option Reason} {state reached : State}
  {index : Nat} {token : Token} {tokens front back rest : List Token} {fault : Misplacement}

/-- The state after tokens, where a rule says what is wrong with a token. -/
def scanBy (flawed : Nat → Option TokenKind → TokenKind → Option Reason) (state : State)
    (index : Nat) : List Token → Except Misplacement State
  | [] => .ok state
  | token :: rest =>
    if token.isSpace then scanBy flawed state (index + 1) rest
    else match flawed state.depth state.before token.kind with
      | some reason => .error ⟨reason, some index⟩
      | none => scanBy flawed (state.after index token.kind) (index + 1) rest

theorem scan_eq_scanBy (state : State) (index : Nat) (tokens : List Token) :
    scan state index tokens = scanBy flaw? state index tokens := by
  induction tokens generalizing state index with
  | nil => rfl
  | cons token rest ih =>
    simp only [scan, scanBy, ih]
    rfl

theorem scanBy_cons_of_isSpace (h : token.isSpace = true) :
    scanBy flawed state index (token :: rest) = scanBy flawed state (index + 1) rest := by
  rw [scanBy, if_pos h]

theorem scanBy_cons_of_flaw {reason : Reason} (solid : ¬token.isSpace = true)
    (flaw : flawed state.depth state.before token.kind = some reason) :
    scanBy flawed state index (token :: rest) = .error ⟨reason, some index⟩ := by
  rw [scanBy, if_neg solid, flaw]

theorem scanBy_cons_of_no_flaw (solid : ¬token.isSpace = true)
    (flawless : flawed state.depth state.before token.kind = none) :
    scanBy flawed state index (token :: rest) =
      scanBy flawed (state.after index token.kind) (index + 1) rest := by
  rw [scanBy, if_neg solid, flawless]

/-- A scan of a list put together from two goes on with the second where the first ends. -/
theorem scanBy_append :
    scanBy flawed state index (front ++ back) =
      scanBy flawed state index front >>= fun reached =>
        scanBy flawed reached (index + front.length) back := by
  induction front generalizing state index with
  | nil => rfl
  | cons token rest ih =>
    have shift : index + (token :: rest).length = index + 1 + rest.length := by
      rw [List.length_cons]
      omega
    rw [List.cons_append, shift]
    by_cases space : token.isSpace = true
    · rw [scanBy_cons_of_isSpace space, scanBy_cons_of_isSpace space, ih]
    · cases flaw : flawed state.depth state.before token.kind with
      | some reason =>
        rw [scanBy_cons_of_flaw space flaw, scanBy_cons_of_flaw space flaw]
        rfl
      | none => rw [scanBy_cons_of_no_flaw space flaw, scanBy_cons_of_no_flaw space flaw, ih]

/-- A scan that stops has scanned the tokens before the one with the flaw. -/
theorem exists_of_scanBy_error (h : scanBy flawed state index tokens = .error fault) :
    ∃ front token back reached, tokens = front ++ token :: back ∧
      scanBy flawed state index front = .ok reached ∧ ¬token.isSpace = true ∧
      flawed reached.depth reached.before token.kind = some fault.reason ∧
      fault.index = some (index + front.length) := by
  induction tokens generalizing state index with
  | nil => exact absurd h (by simp [scanBy])
  | cons token rest ih =>
    by_cases space : token.isSpace = true
    · rw [scanBy_cons_of_isSpace space] at h
      obtain ⟨front, next, back, reached, rfl, scanned, solid, flaw, place⟩ := ih h
      refine ⟨token :: front, next, back, reached, rfl, ?_, solid, flaw, ?_⟩
      · rw [scanBy_cons_of_isSpace space, scanned]
      · rw [place, List.length_cons]
        congr 1
        omega
    · cases flaw : flawed state.depth state.before token.kind with
      | some reason =>
        rw [scanBy_cons_of_flaw space flaw] at h
        cases h
        exact ⟨[], token, rest, state, rfl, rfl, space, flaw, rfl⟩
      | none =>
        rw [scanBy_cons_of_no_flaw space flaw] at h
        obtain ⟨front, next, back, reached, rfl, scanned, solid, later, place⟩ := ih h
        refine ⟨token :: front, next, back, reached, rfl, ?_, solid, later, ?_⟩
        · rw [scanBy_cons_of_no_flaw space flaw, scanned]
        · rw [place, List.length_cons]
          congr 1
          omega

/-- **Invariants of a scan.**  What holds of no tokens and the start, is kept by a blank and is
kept by a token without a flaw, holds of all tokens and the state that scanning them
reaches. -/
theorem scanBy_induction {motive : List Token → State → Prop} (nil : motive [] start)
    (space : ∀ front state token, motive front state → token.isSpace = true →
      motive (front ++ [token]) state)
    (solid : ∀ front state token, motive front state → ¬token.isSpace = true →
      flawed state.depth state.before token.kind = none →
      motive (front ++ [token]) (state.after front.length token.kind))
    (h : scanBy flawed start 0 tokens = .ok reached) : motive tokens reached := by
  -- generalised over the tokens already scanned, which the remaining ones extend
  have extend : ∀ (rest front : List Token) (state : State), motive front state →
      scanBy flawed state front.length rest = .ok reached → motive (front ++ rest) reached := by
    intro rest
    induction rest with
    | nil =>
      intro front state holds h
      rw [List.append_nil]
      cases h
      exact holds
    | cons token rest ih =>
      intro front state holds h
      rw [← List.singleton_append, ← List.append_assoc]
      have longer : (front ++ [token]).length = front.length + 1 := by simp
      by_cases blank : token.isSpace = true
      · rw [scanBy_cons_of_isSpace blank, ← longer] at h
        exact ih _ _ (space front state token holds blank) h
      · cases flaw : flawed state.depth state.before token.kind with
        | some reason =>
          rw [scanBy_cons_of_flaw blank flaw] at h
          exact absurd h (by simp)
        | none =>
          rw [scanBy_cons_of_no_flaw blank flaw, ← longer] at h
          exact ih _ _ (solid front state token holds blank flaw) h
  exact extend tokens [] start nil h

end Rule

/-! ## One token -/

@[simp] theorem scan_nil (state : State) (index : Nat) : scan state index [] = .ok state := rfl

theorem scan_cons_of_isSpace {token : Token} (h : token.isSpace = true) (state : State)
    (index : Nat) (rest : List Token) :
    scan state index (token :: rest) = scan state (index + 1) rest := by
  rw [scan_eq_scanBy, scan_eq_scanBy, scanBy_cons_of_isSpace h]

theorem scan_cons_of_flaw {state : State} {token : Token} {reason : Reason}
    (solid : ¬token.isSpace = true)
    (flawed : flaw? state.depth state.before token.kind = some reason)
    (index : Nat) (rest : List Token) :
    scan state index (token :: rest) = .error ⟨reason, some index⟩ := by
  rw [scan_eq_scanBy, scanBy_cons_of_flaw solid flawed]

theorem scan_cons_of_no_flaw {state : State} {token : Token} (solid : ¬token.isSpace = true)
    (flawless : flaw? state.depth state.before token.kind = none)
    (index : Nat) (rest : List Token) :
    scan state index (token :: rest) =
      scan (state.after index token.kind) (index + 1) rest := by
  rw [scan_eq_scanBy, scan_eq_scanBy, scanBy_cons_of_no_flaw solid flawless]

/-! ## Lists of tokens -/

/-- A scan of a list put together from two goes on with the second where the first ends. -/
theorem scan_append (state : State) (index : Nat) (front back : List Token) :
    scan state index (front ++ back) =
      scan state index front >>= fun reached => scan reached (index + front.length) back := by
  simp only [scan_eq_scanBy]
  exact scanBy_append

theorem scan_append_of_ok {state reached : State} {index : Nat} {front : List Token}
    (h : scan state index front = .ok reached) (back : List Token) :
    scan state index (front ++ back) = scan reached (index + front.length) back := by
  rw [scan_append, h]
  rfl

theorem scan_append_of_error {state : State} {index : Nat} {front : List Token}
    {fault : Misplacement} (h : scan state index front = .error fault) (back : List Token) :
    scan state index (front ++ back) = .error fault := by
  rw [scan_append, h]
  rfl

/-- A scan that stops has scanned the tokens before the one with the flaw. -/
theorem exists_of_scan_error {state : State} {index : Nat} {tokens : List Token}
    {fault : Misplacement} (h : scan state index tokens = .error fault) :
    ∃ front token back reached, tokens = front ++ token :: back ∧
      scan state index front = .ok reached ∧ ¬token.isSpace = true ∧
      flaw? reached.depth reached.before token.kind = some fault.reason ∧
      fault.index = some (index + front.length) := by
  simp only [scan_eq_scanBy] at h ⊢
  exact exists_of_scanBy_error h

/-- What scanning one more token keeps, scanning keeps. -/
theorem scan_induction {motive : List Token → State → Prop} (nil : motive [] start)
    (space : ∀ front state token, motive front state → token.isSpace = true →
      motive (front ++ [token]) state)
    (solid : ∀ front state token, motive front state → ¬token.isSpace = true →
      flaw? state.depth state.before token.kind = none →
      motive (front ++ [token]) (state.after front.length token.kind))
    {tokens : List Token} {reached : State} (h : scan start 0 tokens = .ok reached) :
    motive tokens reached :=
  scanBy_induction nil space solid ((scan_eq_scanBy ..).symm.trans h)

/-! ## Blanks -/

/-- The view that a scan reaches, or the reason for which it stops. -/
def verdict (result : Except Misplacement State) : Except Reason (Nat × Option TokenKind) :=
  (result.map State.view).mapError Misplacement.reason

/-- Blanks and indices have no part in the verdict. -/
theorem verdict_scan_withoutSpaces {state other : State} (same : state.view = other.view)
    (index place : Nat) (tokens : List Token) :
    verdict (scan state index tokens) =
      verdict (scan other place (Token.withoutSpaces tokens)) := by
  induction tokens generalizing state other index place with
  | nil => exact congrArg Except.ok same
  | cons token rest ih =>
    have depth : state.depth = other.depth := congrArg Prod.fst same
    have before : state.before = other.before := congrArg Prod.snd same
    by_cases space : token.isSpace = true
    · rw [scan_cons_of_isSpace space, Token.withoutSpaces_cons_of_isSpace space]
      exact ih same _ _
    · rw [Token.withoutSpaces_cons_of_not_isSpace space]
      cases flaw : flaw? state.depth state.before token.kind with
      | some reason =>
        rw [scan_cons_of_flaw space flaw, scan_cons_of_flaw space (depth ▸ before ▸ flaw)]
        rfl
      | none =>
        rw [scan_cons_of_no_flaw space flaw, scan_cons_of_no_flaw space (depth ▸ before ▸ flaw)]
        refine ih ?_ _ _
        rw [State.view, State.view, State.depth_after, State.depth_after, depth]
        rfl

/-- A state that is reached without the blanks is reached with them, up to indices. -/
theorem exists_scan_of_withoutSpaces {state reached : State} {index : Nat} {tokens : List Token}
    (h : scan state index (Token.withoutSpaces tokens) = .ok reached) :
    ∃ other, scan state index tokens = .ok other ∧ other.view = reached.view := by
  have same := verdict_scan_withoutSpaces (rfl : state.view = state.view) index index tokens
  rw [h] at same
  cases scanned : scan state index tokens with
  | error fault =>
    rw [scanned] at same
    have clash : Except.error fault.reason = Except.ok reached.view := same
    exact absurd clash (by simp)
  | ok other =>
    rw [scanned] at same
    exact ⟨other, rfl, Except.ok.inj same⟩

/-- Scans of tokens that are the same but for blanks, from states that say the same, reach states
that say the same. -/
theorem exists_scan_of_view_eq {state other reached : State} {index : Nat}
    {tokens others : List Token} (h : scan state index tokens = .ok reached)
    (view : state.view = other.view)
    (same : Token.withoutSpaces tokens = Token.withoutSpaces others) (place : Nat) :
    ∃ reached', scan other place others = .ok reached' ∧ reached'.view = reached.view := by
  have verdicts : verdict (scan state index tokens) = verdict (scan other place others) := by
    rw [verdict_scan_withoutSpaces view index 0, same,
      ← verdict_scan_withoutSpaces (rfl : other.view = other.view) place 0]
  rw [h] at verdicts
  cases scanned : scan other place others with
  | error fault =>
    rw [scanned] at verdicts
    have clash : Except.ok reached.view = Except.error fault.reason := verdicts
    exact absurd clash (by simp)
  | ok reached' =>
    rw [scanned] at verdicts
    exact ⟨reached', rfl, (Except.ok.inj verdicts).symm⟩

end Arrangement

end Reckon
