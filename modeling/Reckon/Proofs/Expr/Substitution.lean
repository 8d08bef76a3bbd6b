import Reckon.Proofs.Arrangement.Earliest
import Reckon.Proofs.Expr.Leaves

/-!
# A group in the place of a number

A number that stands on its own can be replaced by a group in parentheses.  The tokens stay in
order, and the tree stays as it is but for one leaf, the one that came from the number, in whose
place the tree of the group now stands (`ofTokens_substitute`).  A number before a parenthesis is
not on its own: `2(3)` is a product, and `(2)(3)` is not in order.

## Two runs side by side

The tree is not compared with the tree.  The two runs of assembly are compared state by state.
Behind the number and behind the group the stacks are the same but for the expression on top, and
the kind of the token before differs, which only an opening parenthesis would notice.  From there
on the second state is the first with the scion grafted in, `Stacks.graft`, and every operation
commutes with grafting.  The place of the leaf is counted from the first of all leaves on the
stack, so neither what is pushed on top later nor the joining of neighbours moves it.

Grafting commutes with the push of a number only because the place is that of a leaf that is
already there.  This is the one thing that is carried along, and it holds by
`leavesOf_of_step`.
-/

namespace Reckon

namespace Expr

/-- The tree with a scion in the place of one of its leaves.  Leaves are counted from zero and
from the left; behind the last one nothing is replaced. -/
def graft : Expr → Nat → Expr → Expr
  | number value, place, scion => if place = 0 then scion else number value
  | binary op left right, place, scion =>
    if place < left.leaves.length then binary op (left.graft place scion) right
    else binary op left (right.graft (place - left.leaves.length) scion)

example (one two three scion : Binary64) :
    (binary .sub (number one) (binary .pow (number two) (number three))).graft 1 (number scion) =
      binary .sub (number one) (binary .pow (number scion) (number three)) := rfl

end Expr

namespace Assembly

open Reckon.Expr (NumbersHaveValues)
open Token (numberCount)

/-! ## Grafting on a stack -/

/-- Finished expressions with a scion in the place of one of their leaves, which are counted from
the expression that was finished first. -/
def graftAll : List Expr → Nat → Expr → List Expr
  | [], _, _ => []
  | tree :: below, place, scion =>
    if place < (leavesOf below).length then tree :: graftAll below place scion
    else tree.graft (place - (leavesOf below).length) scion :: below

/-- The stacks with a scion in the place of a leaf. -/
def Stacks.graft (state : Stacks) (place : Nat) (scion : Expr) : Stacks :=
  { state with finished := graftAll state.finished place scion }

variable {place : Nat} {scion : Expr}

theorem graftAll_cons_of_lt {tree : Expr} {below : List Expr}
    (h : place < (leavesOf below).length) :
    graftAll (tree :: below) place scion = tree :: graftAll below place scion := by
  rw [graftAll, if_pos h]

theorem graftAll_cons_of_le {tree : Expr} {below : List Expr}
    (h : (leavesOf below).length ≤ place) :
    graftAll (tree :: below) place scion =
      tree.graft (place - (leavesOf below).length) scion :: below := by
  rw [graftAll, if_neg (Nat.not_lt.2 h)]

/-- A number on top is replaced at the place behind all other leaves. -/
theorem graftAll_number (value : Binary64) (finished : List Expr) (scion : Expr) :
    graftAll (.number value :: finished) (leavesOf finished).length scion = scion :: finished := by
  rw [graftAll_cons_of_le (Nat.le_refl _), Nat.sub_self]
  rfl

/-- Joining the two topmost expressions does not move a leaf. -/
theorem reduce_graftAll (op : Operator) (finished : List Expr) (place : Nat) (scion : Expr) :
    reduce op (graftAll finished place scion) =
      (reduce op finished).map (graftAll · place scion) := by
  match finished with
  | [] => rfl
  | [only] =>
    rw [graftAll_cons_of_le (Nat.zero_le _)]
    rfl
  | right :: left :: below =>
    have count : (leavesOf (left :: below)).length =
        (leavesOf below).length + left.leaves.length := by
      rw [leavesOf_cons, List.length_append]
    have joined : (reduce op (right :: left :: below)).map (graftAll · place scion) =
        .ok (graftAll (.binary op left right :: below) place scion) := rfl
    rw [joined]
    by_cases deep : place < (leavesOf below).length
    · rw [graftAll_cons_of_lt (by omega), graftAll_cons_of_lt deep, graftAll_cons_of_lt deep]
      rfl
    · have shallow := Nat.le_of_not_lt deep
      rw [graftAll_cons_of_le shallow, Expr.graft]
      by_cases first : place < (leavesOf (left :: below)).length
      · rw [graftAll_cons_of_lt first, graftAll_cons_of_le shallow, if_pos (by omega)]
        rfl
      · rw [graftAll_cons_of_le (Nat.le_of_not_lt first), if_neg (by omega), count, Nat.sub_sub]
        rfl

/-! ## Completing a grafted stack -/

theorem completeTighter_graftAll (op : Operator) (pending : List Pending)
    (finished : List Expr) (place : Nat) (scion : Expr) :
    completeTighter op pending (graftAll finished place scion) =
      (completeTighter op pending finished).map (·.graft place scion) := by
  induction pending generalizing finished with
  | nil => rfl
  | cons top pending ih =>
    cases top with
    | group => rfl
    | operator top =>
      rw [completeTighter, completeTighter]
      split
      · rfl
      · rw [reduce_graftAll]
        cases reduce top finished with
        | error fault => rfl
        | ok next => exact ih next

theorem closeGroup_graftAll (pending : List Pending) (finished : List Expr) (place : Nat)
    (scion : Expr) :
    closeGroup pending (graftAll finished place scion) =
      (closeGroup pending finished).map (·.graft place scion) := by
  induction pending generalizing finished with
  | nil => rfl
  | cons top pending ih =>
    cases top with
    | group => rfl
    | operator top =>
      rw [closeGroup, closeGroup, reduce_graftAll]
      cases reduce top finished with
      | error fault => rfl
      | ok next => exact ih next

/-- Completing a stack on which no group is open. -/
theorem completeAll_graftAll {pending : List Pending} {finished completed : List Expr}
    (h : completeAll pending finished = .ok completed) (place : Nat) (scion : Expr) :
    completeAll pending (graftAll finished place scion) = .ok (graftAll completed place scion) := by
  induction pending generalizing finished with
  | nil =>
    cases Except.ok.inj h
    rfl
  | cons top pending ih =>
    obtain ⟨next, reduced, rest⟩ := exists_of_bind_eq_ok h
    cases top with
    | operator op =>
      have grafted : reduce op (graftAll finished place scion) =
          .ok (graftAll next place scion) := by
        have reduced : reduce op finished = .ok next := reduced
        rw [reduce_graftAll, reduced]
        rfl
      rw [completeAll, reducePending, grafted]
      exact ih rest
    | group =>
      unfold reducePending at reduced
      split at reduced <;> simp_all

/-! ## Reading on with a grafted stack -/

/-- **A token does to grafted stacks what it does to the others.** -/
theorem step_graft {state : Stacks} (here : place < (leavesOf state.finished).length)
    (before : Option TokenKind) (token : Token) :
    step (state.graft place scion) before token =
      (step state before token).map (·.graft place scion) := by
  cases kind : token.kind with
  | space =>
    simp only [step, kind]
    rfl
  | number =>
    simp only [step, kind]
    cases Numeral.real? token.text with
    | none => rfl
    | some value =>
      exact congrArg (fun finished => Except.ok (Stacks.mk state.pending finished))
        (graftAll_cons_of_lt here).symm
  | operator op =>
    simp only [step, kind, Stacks.graft, completeTighter_graftAll]
    cases completeTighter op state.pending state.finished with
    | error fault => rfl
    | ok next => rfl
  | openParen =>
    simp only [step, kind]
    rfl
  | closeParen =>
    simp only [step, kind, Stacks.graft, closeGroup_graftAll]

/-- **Reading on from grafted stacks gives grafted stacks.** -/
theorem run_graft {state : Stacks} (here : place < (leavesOf state.finished).length)
    (before : Option TokenKind) (tokens : List Token) :
    run (state.graft place scion) before tokens =
      (run state before tokens).map (·.graft place scion) := by
  induction tokens generalizing state before with
  | nil => rfl
  | cons token rest ih =>
    rw [run, run, step_graft here]
    cases stepped : step state before token with
    | error fault => rfl
    | ok next =>
      refine ih ?_ _
      rw [leavesOf_of_step stepped, List.length_append]
      exact Nat.lt_add_right _ here

/-! ## The token before -/

/-- Whether tokens, blanks apart, do not begin with an opening parenthesis. -/
def NotOpening (tokens : List Token) : Prop :=
  ∀ next ∈ (Token.withoutSpaces tokens).head?, next.kind ≠ .openParen

theorem NotOpening.tail {token : Token} {rest : List Token} (h : NotOpening (token :: rest))
    (space : token.isSpace = true) : NotOpening rest := by
  rwa [NotOpening, Token.withoutSpaces_cons_of_isSpace space] at h

theorem NotOpening.kind_ne {token : Token} {rest : List Token} (h : NotOpening (token :: rest))
    (solid : ¬token.isSpace = true) : token.kind ≠ .openParen := by
  rw [NotOpening, Token.withoutSpaces_cons_of_not_isSpace solid] at h
  exact h token rfl

/-- Only an opening parenthesis asks what stands before it. -/
theorem step_of_ne_openParen {token : Token} (other : token.kind ≠ .openParen) (state : Stacks)
    (before before' : Option TokenKind) : step state before token = step state before' token := by
  unfold step
  split <;> first | rfl | exact absurd ‹_› other

theorem run_of_notOpening {tokens : List Token} (h : NotOpening tokens) {state next : Stacks}
    {before : Option TokenKind} (ran : run state before tokens = .ok next)
    (before' : Option TokenKind) : run state before' tokens = .ok next := by
  induction tokens generalizing state with
  | nil => exact ran
  | cons token rest ih =>
    rw [run] at ran ⊢
    by_cases space : token.isSpace = true
    · have still (kind : Option TokenKind) : step state kind token = .ok state := by
        rw [step, Token.isSpace_eq_true_iff.1 space]
      rw [still, if_pos space] at ran ⊢
      exact ih (h.tail space) ran
    · rw [if_neg space] at ran ⊢
      rwa [step_of_ne_openParen (h.kind_ne space) state before' before]

/-- The scan and assembly agree on what stands before. -/
theorem before_eq_lastKind {state reached : Arrangement.State} {index : Nat} {tokens : List Token}
    (h : Arrangement.scan state index tokens = .ok reached) :
    reached.before = lastKind state.before tokens := by
  induction tokens generalizing state index with
  | nil =>
    cases Except.ok.inj h
    rfl
  | cons token rest ih =>
    by_cases space : token.isSpace = true
    · rw [Arrangement.scan_cons_of_isSpace space] at h
      rw [ih h, lastKind, if_pos space]
    · cases flaw : Arrangement.flaw? state.depth state.before token.kind with
      | some reason =>
        rw [Arrangement.scan_cons_of_flaw space flaw] at h
        exact absurd h (by simp)
      | none =>
        rw [Arrangement.scan_cons_of_no_flaw space flaw] at h
        rw [ih h, lastKind, if_neg space]
        rfl

/-! ## The tokens stay in order -/

open Arrangement (check scan start flaw? AwaitsOperand EndsOperand State)

/-- What may stand behind a number may stand behind a group, an opening parenthesis apart. -/
theorem flaw?_of_endsOperand {depth : Nat} {before before' : Option TokenKind}
    {kind : TokenKind} (ends : EndsOperand before) (ends' : EndsOperand before')
    (other : kind ≠ .openParen) : flaw? depth before kind = flaw? depth before' kind := by
  rcases ends with rfl | rfl <;> rcases ends' with rfl | rfl <;> cases kind <;>
    first | rfl | exact absurd rfl other

/-- What passes behind one operand and ends in order passes behind another one. -/
theorem exists_scan_of_endsOperand {state state' reached : State} {index : Nat}
    {tokens : List Token} (alone : NotOpening tokens) (depth : state'.depth = state.depth)
    (ends : EndsOperand state.before) (ends' : EndsOperand state'.before)
    (scanned : scan state index tokens = .ok reached) (done : reached.depth = 0)
    (ended : EndsOperand reached.before) (index' : Nat) :
    ∃ reached', scan state' index' tokens = .ok reached' ∧ reached'.depth = 0 ∧
      EndsOperand reached'.before := by
  induction tokens generalizing index index' with
  | nil =>
    cases Except.ok.inj scanned
    exact ⟨state', rfl, depth.trans done, ends'⟩
  | cons token rest ih =>
    by_cases space : token.isSpace = true
    · rw [Arrangement.scan_cons_of_isSpace space] at scanned ⊢
      exact ih (alone.tail space) scanned _
    · have same : flaw? state'.depth state'.before token.kind =
          flaw? state.depth state.before token.kind := by
        rw [depth]
        exact flaw?_of_endsOperand ends' ends (alone.kind_ne space)
      cases flaw : flaw? state.depth state.before token.kind with
      | some reason =>
        rw [Arrangement.scan_cons_of_flaw space flaw] at scanned
        exact absurd scanned (by simp)
      | none =>
        rw [Arrangement.scan_cons_of_no_flaw space flaw] at scanned
        rw [Arrangement.scan_cons_of_no_flaw space (same.trans flaw)]
        -- behind `token` the two scans see the same, and indices do not matter
        have view : (state.after index token.kind).view =
            (state'.after index' token.kind).view := by
          rw [State.view, State.view, State.depth_after, State.depth_after, depth]
          rfl
        obtain ⟨reached', scanned', seen⟩ :=
          Arrangement.exists_scan_of_view_eq scanned view rfl (index' + 1)
        refine ⟨reached', scanned', (congrArg Prod.fst seen).trans done, ?_⟩
        rw [show reached'.before = reached.before from congrArg Prod.snd seen]
        exact ended

variable {front back group : List Token} {n l r : Token}

/-- Before a number among tokens in order an operand is awaited, and what follows passes behind
it. -/
theorem exists_scan_of_check_number (number : n.kind = .number)
    (ordered : check (front ++ n :: back) = .ok ()) :
    ∃ middle reached, scan start 0 front = .ok middle ∧ AwaitsOperand middle.before ∧
      scan (middle.after front.length .number) (front.length + 1) back = .ok reached ∧
      reached.depth = 0 ∧ EndsOperand reached.before := by
  obtain ⟨reached, scanned, done, ended⟩ := Arrangement.check_eq_ok_iff_exists_scan.1 ordered
  obtain ⟨middle, before⟩ := Arrangement.exists_scan_of_append scanned
  have solid : ¬n.isSpace = true := Arrangement.not_isSpace_of_kind number (by simp)
  rw [Arrangement.scan_append_of_ok before, Nat.zero_add] at scanned
  cases flaw : flaw? middle.depth middle.before n.kind with
  | some reason =>
    rw [Arrangement.scan_cons_of_flaw solid flaw] at scanned
    exact absurd scanned (by simp)
  | none =>
    rw [Arrangement.scan_cons_of_no_flaw solid flaw, number] at scanned
    rw [number] at flaw
    have awaits := Arrangement.awaits_of_flaw?_number
      (Arrangement.viable_of_scan before).awaits_or_ends flaw
    exact ⟨middle, reached, before, awaits, scanned, done, ended⟩

theorem withoutSpaces_group (opening : l.kind = .openParen) (closing : r.kind = .closeParen)
    (group : List Token) :
    Token.withoutSpaces (l :: (group ++ [r])) = l :: (Token.withoutSpaces group ++ [r]) := by
  have opens : ¬l.isSpace = true := Arrangement.not_isSpace_of_kind opening (by simp)
  have closes : ¬r.isSpace = true := Arrangement.not_isSpace_of_kind closing (by simp)
  rw [Token.withoutSpaces_cons_of_not_isSpace opens, Token.withoutSpaces_append,
    Token.withoutSpaces_cons_of_not_isSpace closes, Token.withoutSpaces_nil]

/-- **A group may stand where a number stands on its own.** -/
theorem check_substitute (number : n.kind = .number) (opening : l.kind = .openParen)
    (closing : r.kind = .closeParen) (alone : NotOpening back)
    (ordered : check (front ++ n :: back) = .ok ()) (ordered' : check group = .ok ()) :
    check (front ++ (l :: (group ++ [r]) ++ back)) = .ok () := by
  obtain ⟨middle, reached, before, awaits, scanned, done, ended⟩ :=
    exists_scan_of_check_number number ordered
  have derived : Arrangement.Derives .operand (Token.withoutSpaces (l :: (group ++ [r]))) := by
    rw [withoutSpaces_group opening closing]
    exact .group opening (Arrangement.derives_of_check ordered') closing
  obtain ⟨solid, passed, depth, ends⟩ := derived.scan_eq_ok middle awaits front.length
  obtain ⟨inner, within, view⟩ := Arrangement.exists_scan_of_withoutSpaces passed
  have depth' : inner.depth = (middle.after front.length .number).depth :=
    (congrArg Prod.fst view).trans depth
  have ends' : EndsOperand inner.before := by
    rw [show inner.before = solid.before from congrArg Prod.snd view]
    exact ends
  obtain ⟨last, rest, done', ended'⟩ := exists_scan_of_endsOperand alone depth' (.inl rfl) ends'
    scanned done ended (front.length + (l :: (group ++ [r])).length)
  refine Arrangement.check_append_of_scan before ?_ done' ended'
  rw [Arrangement.scan_append_of_ok within]
  exact rest

/-! ## The main statement -/

/-- What assembly makes of tokens with a number on its own: the stacks before it, the stacks in the
end, and the tree. -/
structure Site (front back : List Token) (value : Binary64) (tree : Expr) where
  before : Stacks
  last : Stacks
  reaches : run ⟨[], []⟩ none front = .ok before
  free : lastKind none front ≠ some .number
  rest : run ⟨before.pending, .number value :: before.finished⟩ (some .number) back = .ok last
  completed : completeAll last.pending last.finished = .ok [tree]
  place : (leavesOf before.finished).length = numberCount front

theorem exists_site (number : n.kind = .number) (ordered : check (front ++ n :: back) = .ok ())
    (values : NumbersHaveValues (front ++ n :: back)) :
    ∃ value tree, Expr.ofTokens (front ++ n :: back) = .ok tree ∧
      tree.leaves = Token.values (front ++ n :: back) ∧
      Nonempty (Site front back value tree) := by
  obtain ⟨value, hvalue⟩ := values n (List.mem_append_right _ (List.mem_cons_self ..)) number
  obtain ⟨tree, reads⟩ := exists_reads_of_check ordered values
  obtain ⟨last, ran, completed⟩ := exists_run_of_reads reads
  obtain ⟨middle, _, scanned, awaits, _⟩ := exists_scan_of_check_number number ordered
  have leaves : tree.leaves = Token.values (front ++ n :: back) := by
    have kept := leavesOf_of_completeAll completed
    rw [leavesOf_of_run ran] at kept
    exact kept
  refine ⟨value, tree, ofTokens_of_reads reads, leaves, ?_⟩
  rw [run_append] at ran
  obtain ⟨before, reaches, rest⟩ := exists_of_bind_eq_ok ran
  rw [run_number number hvalue] at rest
  refine ⟨⟨before, last, reaches, ?_, rest, completed, ?_⟩⟩
  · rw [← show middle.before = lastKind none front from before_eq_lastKind scanned]
    rcases awaits with h | h | ⟨op, h⟩ <;> simp [h]
  · rw [leavesOf_of_run reaches, leavesOf_nil, List.nil_append]
    exact Token.length_values fun token mem => values token (List.mem_append_left _ mem)

/-- Tokens that put a scion on the stack, in the place of the number, have it grafted into the
tree. -/
theorem Site.ofTokens_eq {value : Binary64} {tree : Expr} (site : Site front back value tree)
    (alone : NotOpening back) {stretch : List Token} {scion : Expr}
    (built : run site.before (lastKind none front) stretch =
      .ok ⟨site.before.pending, scion :: site.before.finished⟩) :
    Expr.ofTokens (front ++ (stretch ++ back)) = .ok (tree.graft (numberCount front) scion) := by
  have grafted : Stacks.graft ⟨site.before.pending, .number value :: site.before.finished⟩
      (numberCount front) scion = ⟨site.before.pending, scion :: site.before.finished⟩ := by
    rw [Stacks.graft, ← site.place, graftAll_number]
  have ran : run ⟨site.before.pending, scion :: site.before.finished⟩ (some .number) back =
      .ok (site.last.graft (numberCount front) scion) := by
    rw [← grafted, run_graft, site.rest]
    · rfl
    · rw [leavesOf_cons, List.length_append, site.place]
      exact Nat.lt_succ_self _
  have read : run ⟨[], []⟩ none (front ++ (stretch ++ back)) =
      .ok (site.last.graft (numberCount front) scion) := by
    rw [run_append_of_ok site.reaches, run_append_of_ok built]
    exact run_of_notOpening alone ran _
  have completed := completeAll_graftAll site.completed (numberCount front) scion
  exact ofTokens_of_run read completed

/-- A group puts its tree on the stack. -/
theorem run_group {before : Option TokenKind} (free : before ≠ some .number)
    (opening : l.kind = .openParen) (closing : r.kind = .closeParen) {scion : Expr}
    (reads : Expr.Reads (Token.withoutSpaces group) (.sum scion)) (state : Stacks) :
    run state before (l :: (group ++ [r])) = .ok ⟨state.pending, scion :: state.finished⟩ := by
  rw [run_withoutSpaces, withoutSpaces_group opening closing]
  exact builds_of_reads (.group opening reads closing) state.pending state.finished before free

/-- **A group in the place of a number.**  In tokens in order, a number with no parenthesis behind
it may be replaced by a group of tokens in order.  The result is in order, and its tree is the one
of the tokens with the tree of the group in the place of a leaf.  This leaf is the number's: the
leaves of the tree are the values of the numbers in turn, the place is the count of numbers before
this one, and another numeral in its stead changes this leaf alone. -/
theorem ofTokens_substitute (number : n.kind = .number) (opening : l.kind = .openParen)
    (closing : r.kind = .closeParen) (alone : NotOpening back)
    (ordered : check (front ++ n :: back) = .ok ())
    (values : NumbersHaveValues (front ++ n :: back)) (ordered' : check group = .ok ())
    (values' : NumbersHaveValues group) :
    check (front ++ (l :: (group ++ [r]) ++ back)) = .ok () ∧
    ∃ tree scion, Expr.ofTokens (front ++ n :: back) = .ok tree ∧
      Expr.ofTokens group = .ok scion ∧
      Expr.ofTokens (front ++ (l :: (group ++ [r]) ++ back)) =
        .ok (tree.graft (numberCount front) scion) ∧
      tree.leaves = Token.values (front ++ n :: back) ∧
      ∀ (m : Token) (value : Binary64), m.kind = .number → Numeral.real? m.text = some value →
        Expr.ofTokens (front ++ m :: back) =
          .ok (tree.graft (numberCount front) (.number value)) := by
  refine ⟨check_substitute number opening closing alone ordered ordered', ?_⟩
  obtain ⟨value, tree, built, leaves, ⟨site⟩⟩ := exists_site number ordered values
  obtain ⟨scion, reads⟩ := exists_reads_of_check ordered' values'
  refine ⟨tree, scion, built, ofTokens_of_reads reads, ?_, leaves, ?_⟩
  · exact site.ofTokens_eq alone (run_group site.free opening closing reads site.before)
  · intro m other hm hother
    exact site.ofTokens_eq alone (run_number hm hother [])

/-- The tokens of `2^ 3(`. -/
def beforeLast : List Token :=
  [⟨.number, "2"⟩, ⟨.operator .pow, "^"⟩, ⟨.space, " "⟩, ⟨.number, "3"⟩, ⟨.openParen, "("⟩]

/-- The tokens of `5-6`. -/
def difference : List Token := [⟨.number, "5"⟩, ⟨.operator .sub, "-"⟩, ⟨.number, "6"⟩]

/-- In `2^ 3(4)` the `4` may become `(5-6)`, but the `3` may not. -/
theorem ofTokens_substitute_innermost :
    NotOpening [⟨.closeParen, ")"⟩] ∧ ¬NotOpening (⟨.openParen, "("⟩ :: difference) ∧
    check (beforeLast ++ [⟨.number, "4"⟩, ⟨.closeParen, ")"⟩]) = .ok () ∧
    check (beforeLast ++
      (⟨.openParen, "("⟩ :: (difference ++ [⟨.closeParen, ")"⟩]) ++ [⟨.closeParen, ")"⟩])) =
        .ok () ∧
    ∃ two three five six : Binary64, Expr.ofTokens (beforeLast ++
      (⟨.openParen, "("⟩ :: (difference ++ [⟨.closeParen, ")"⟩]) ++ [⟨.closeParen, ")"⟩])) =
        .ok (.binary .pow (.number two)
          (.binary .mul (.number three) (.binary .sub (.number five) (.number six)))) := by
  have alone : NotOpening [⟨.closeParen, ")"⟩] := by
    intro next mem
    cases Option.some.inj mem
    simp
  have taken : ¬NotOpening (⟨.openParen, "("⟩ :: difference) := fun h => h _ rfl rfl
  have ordered : check (beforeLast ++ [⟨.number, "4"⟩, ⟨.closeParen, ")"⟩]) = .ok () := rfl
  have values : NumbersHaveValues (beforeLast ++ [⟨.number, "4"⟩, ⟨.closeParen, ")"⟩]) := by
    simp only [NumbersHaveValues, ← Option.isSome_iff_exists]
    decide +kernel
  have values' : NumbersHaveValues difference := by
    simp only [NumbersHaveValues, ← Option.isSome_iff_exists]
    decide +kernel
  obtain ⟨ordered', tree, scion, built, built', substituted, -⟩ :=
    ofTokens_substitute (l := ⟨.openParen, "("⟩) (r := ⟨.closeParen, ")"⟩) rfl rfl rfl alone ordered
      values rfl values'
  obtain ⟨two, htwo⟩ := values ⟨.number, "2"⟩ (by decide) rfl
  obtain ⟨three, hthree⟩ := values ⟨.number, "3"⟩ (by decide) rfl
  obtain ⟨four, hfour⟩ := values ⟨.number, "4"⟩ (by decide) rfl
  obtain ⟨five, hfive⟩ := values' ⟨.number, "5"⟩ (by decide) rfl
  obtain ⟨six, hsix⟩ := values' ⟨.number, "6"⟩ (by decide) rfl
  have innermost : Expr.Reads [⟨.number, "4"⟩] (.sum (.number four)) :=
    .product (.chain (.link (.number rfl hfour)))
  have reads : Expr.Reads (Token.withoutSpaces (beforeLast ++ [⟨.number, "4"⟩, ⟨.closeParen, ")"⟩]))
      (.sum (.binary .pow (.number two) (.binary .mul (.number three) (.number four)))) :=
    .product (.chain (.power (.number rfl htwo) rfl
      (.link (.multiple rfl hthree rfl innermost rfl))))
  have reads' : Expr.Reads (Token.withoutSpaces difference)
      (.sum (.binary .sub (.number five) (.number six))) :=
    .plus (.product (.chain (.link (.number rfl hfive)))) rfl (.inr rfl)
      (.chain (.link (.number rfl hsix)))
  cases Except.ok.inj (built.symm.trans (ofTokens_of_reads reads))
  cases Except.ok.inj (built'.symm.trans (ofTokens_of_reads reads'))
  exact ⟨alone, taken, ordered, ordered', two, three, five, six, substituted⟩

end Assembly

end Reckon
