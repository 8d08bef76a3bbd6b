import Reckon.Expr.Assembly
import Reckon.Proofs.Expr.Grammar

/-!
# Assembly builds the tree of the grammar

The two stacks of `Assembly` hold an expression that is not finished.  Above the last open
group they hold, for every pending operator, its left side, and on top of all the operand that
was read last.  What this stands for is not determined by any one stack but by what happens
when the pending operators are completed.

## Settling

`Settles least` relates two pairs of stacks when completing operators on top, all of them
binding at least as tightly as `least`, leads from the first to the second.  Everything that
assembly does with pending operators comes to settling first: `completeTighter_of_settles`,
`closeGroup_of_settles` and `completeAll_of_settles` say that stacks that settle are treated
alike.  Nothing else happens to pending operators: where one of the three succeeds, the stacks
have settled.  So the state of assembly behind a phrase need not be described exactly, only up to
settling: behind a sum it settles with additions, behind a product or a chain with products.

## The invariant

`Builds` says for each sort of phrase what assembly makes of it.  An item is exact: a tree on
its own is put on top, and a number before a group leaves its product pending.  The other
phrases settle to their tree, provided nothing that binds as tightly is pending on top before
them.  A chain is met in two places, on its own and behind the power sign that continues
another chain; in the second it is folded onto what has been folded so far.  `builds_of_reads`
proves all of this by one induction on the reading.
-/

namespace Reckon

namespace Assembly

open Reckon.Expr (Item Phrase Reads chainFrom chainTree NumbersHaveValues)

/-- What comes of two steps in turn comes of the first and then of the second. -/
theorem exists_of_bind_eq_ok {ε α β : Type} {first : Except ε α} {second : α → Except ε β}
    {result : β} (h : first >>= second = .ok result) :
    ∃ middle, first = .ok middle ∧ second middle = .ok result := by
  cases first with
  | error fault => exact absurd h (by simp [bind, Except.bind])
  | ok middle => exact ⟨middle, rfl, h⟩

/-! ## Settling -/

/-- Whether completing operators that bind at least as tightly as `least` leads from stacks to
others. -/
inductive Settles (least : Nat) : Stacks → Stacks → Prop where
  | refl (state : Stacks) : Settles least state state
  | reduce {op : Operator} {pending : List Pending} {left right : Expr} {finished : List Expr}
      {state : Stacks} (tight : least ≤ op.precedence)
      (hrest : Settles least ⟨pending, .binary op left right :: finished⟩ state) :
      Settles least ⟨.operator op :: pending, right :: left :: finished⟩ state

theorem Settles.trans {least : Nat} {a b c : Stacks} (hab : Settles least a b)
    (hbc : Settles least b c) : Settles least a c := by
  induction hab with
  | refl => exact hbc
  | reduce tight _ ih => exact .reduce tight (ih hbc)

theorem Settles.mono {least tighter : Nat} {a b : Stacks} (h : Settles tighter a b)
    (le : least ≤ tighter) : Settles least a b := by
  induction h with
  | refl => exact .refl _
  | reduce tight _ ih => exact .reduce (Nat.le_trans le tight) ih

/-- Completing the operator on top of stacks that settle to its two sides. -/
theorem Settles.reduce_last {least : Nat} {state : Stacks} {op : Operator}
    {pending : List Pending} {left right : Expr} {finished : List Expr}
    (h : Settles least state ⟨.operator op :: pending, right :: left :: finished⟩)
    (tight : least ≤ op.precedence) :
    Settles least state ⟨pending, .binary op left right :: finished⟩ :=
  h.trans (.reduce tight (.refl _))

theorem completeTighter_of_settles {op : Operator} {a b : Stacks}
    (h : Settles op.precedence a b) :
    completeTighter op a.pending a.finished = completeTighter op b.pending b.finished := by
  induction h with
  | refl => rfl
  | reduce tight _ ih =>
    dsimp only
    rw [completeTighter, if_neg (Nat.not_lt.2 tight)]
    exact ih

theorem closeGroup_of_settles {least : Nat} {a b : Stacks} (h : Settles least a b) :
    closeGroup a.pending a.finished = closeGroup b.pending b.finished := by
  induction h with
  | refl => rfl
  | reduce _ _ ih => exact ih

theorem completeAll_of_settles {least : Nat} {a b : Stacks} (h : Settles least a b) :
    completeAll a.pending a.finished = completeAll b.pending b.finished := by
  induction h with
  | refl => rfl
  | reduce _ _ ih => exact ih

/-- Joining takes the two topmost expressions. -/
theorem exists_of_reduce {op : Operator} {finished next : List Expr}
    (h : reduce op finished = .ok next) :
    ∃ left right below, finished = right :: left :: below ∧
      next = .binary op left right :: below := by
  match finished, h with
  | right :: left :: below, h => exact ⟨left, right, below, rfl, (Except.ok.inj h).symm⟩

theorem settles_of_completeTighter {op : Operator} {pending : List Pending}
    {finished : List Expr} {state : Stacks} (h : completeTighter op pending finished = .ok state) :
    Settles op.precedence ⟨pending, finished⟩ state := by
  induction pending generalizing finished with
  | nil =>
    cases Except.ok.inj h
    exact .refl _
  | cons top pending ih =>
    cases top with
    | group =>
      cases Except.ok.inj h
      exact .refl _
    | operator top =>
      rw [completeTighter] at h
      split at h
      · cases Except.ok.inj h
        exact .refl _
      · next tight =>
        obtain ⟨joined, reduced, rest⟩ := exists_of_bind_eq_ok h
        obtain ⟨left, right, below, rfl, rfl⟩ := exists_of_reduce reduced
        exact .reduce (Nat.not_lt.1 tight) (ih rest)

theorem settles_of_closeGroup {pending : List Pending} {finished : List Expr} {state : Stacks}
    (h : closeGroup pending finished = .ok state) :
    Settles 0 ⟨pending, finished⟩ ⟨.group :: state.pending, state.finished⟩ := by
  induction pending generalizing finished with
  | nil => exact absurd h (by simp [closeGroup])
  | cons top pending ih =>
    cases top with
    | group =>
      cases Except.ok.inj h
      exact .refl _
    | operator op =>
      obtain ⟨joined, reduced, rest⟩ := exists_of_bind_eq_ok h
      obtain ⟨left, right, below, rfl, rfl⟩ := exists_of_reduce reduced
      exact .reduce (Nat.zero_le _) (ih rest)

theorem settles_of_completeAll {pending : List Pending} {finished completed : List Expr}
    (h : completeAll pending finished = .ok completed) :
    Settles 0 ⟨pending, finished⟩ ⟨[], completed⟩ := by
  induction pending generalizing finished with
  | nil =>
    cases Except.ok.inj h
    exact .refl _
  | cons top pending ih =>
    obtain ⟨joined, reduced, rest⟩ := exists_of_bind_eq_ok h
    cases top with
    | operator op =>
      obtain ⟨left, right, below, rfl, rfl⟩ := exists_of_reduce reduced
      exact .reduce (Nat.zero_le _) (ih rest)
    | group =>
      unfold reducePending at reduced
      split at reduced <;> simp_all

/-- Whether what is pending on top is a group, or an operator that binds less tightly than
`level`. -/
def Below (level : Nat) : List Pending → Prop
  | .operator op :: _ => op.precedence < level
  | _ => True

/-- An operator completes what settles, and stops where nothing on top binds as tightly. -/
theorem completeTighter_eq {op : Operator} {state : Stacks} {pending : List Pending}
    {finished : List Expr} (settles : Settles op.precedence state ⟨pending, finished⟩)
    (below : Below op.precedence pending) :
    completeTighter op state.pending state.finished = .ok ⟨pending, finished⟩ := by
  rw [completeTighter_of_settles settles]
  match pending, below with
  | [], _ => rfl
  | .group :: _, _ => rfl
  | .operator top :: _, below =>
    have looser : top.precedence < op.precedence := below
    dsimp only
    rw [completeTighter, if_pos looser]

/-! ## Reading one token -/

/-- The kind of the last token that is no blank, after a token of kind `before`. -/
def lastKind (before : Option TokenKind) : List Token → Option TokenKind
  | [] => before
  | token :: rest => lastKind (if token.isSpace then before else some token.kind) rest

theorem run_cons_of_step {state next : Stacks} {before : Option TokenKind} {token : Token}
    {kind : TokenKind} (h : token.kind = kind) (solid : kind ≠ .space)
    (done : step state before token = .ok next) (rest : List Token) :
    run state before (token :: rest) = run next (some kind) rest := by
  subst h
  rw [run, done, if_neg (Arrangement.not_isSpace_of_kind rfl solid)]
  rfl

theorem run_number {state : Stacks} {before : Option TokenKind} {n : Token} {value : Binary64}
    (hn : n.kind = .number) (hvalue : Numeral.real? n.text = some value) (rest : List Token) :
    run state before (n :: rest) =
      run ⟨state.pending, .number value :: state.finished⟩ (some .number) rest := by
  refine run_cons_of_step hn (by simp) ?_ rest
  simp only [step, hn, hvalue]

theorem run_operator {state : Stacks} {before : Option TokenKind} {o : Token} {op : Operator}
    {pending : List Pending} {finished : List Expr} (ho : o.kind = .operator op)
    (settles : Settles op.precedence state ⟨pending, finished⟩)
    (below : Below op.precedence pending) (rest : List Token) :
    run state before (o :: rest) =
      run ⟨.operator op :: pending, finished⟩ (some (.operator op)) rest := by
  refine run_cons_of_step ho (by simp) ?_ rest
  simp only [step, ho, completeTighter_eq settles below]
  rfl

theorem run_openParen {state : Stacks} {before : Option TokenKind} {l : Token}
    (hl : l.kind = .openParen) (free : before ≠ some .number) (rest : List Token) :
    run state before (l :: rest) =
      run ⟨.group :: state.pending, state.finished⟩ (some .openParen) rest := by
  refine run_cons_of_step hl (by simp) ?_ rest
  simp only [step, hl, if_neg free]

theorem run_openParen_of_number {state : Stacks} {l : Token} (hl : l.kind = .openParen)
    (rest : List Token) :
    run state (some .number) (l :: rest) =
      run ⟨.group :: .operator .mul :: state.pending, state.finished⟩ (some .openParen) rest := by
  refine run_cons_of_step hl (by simp) ?_ rest
  simp only [step, hl, ↓reduceIte]

theorem run_closeParen {least : Nat} {state : Stacks} {before : Option TokenKind} {r : Token}
    {pending : List Pending} {finished : List Expr} (hr : r.kind = .closeParen)
    (settles : Settles least state ⟨.group :: pending, finished⟩) (rest : List Token) :
    run state before (r :: rest) = run ⟨pending, finished⟩ (some .closeParen) rest := by
  refine run_cons_of_step hr (by simp) ?_ rest
  simp only [step, hr, closeGroup_of_settles settles, closeGroup]

/-! ## Reading lists of tokens -/

theorem run_append (state : Stacks) (before : Option TokenKind) (front back : List Token) :
    run state before (front ++ back) =
      run state before front >>= fun next => run next (lastKind before front) back := by
  induction front generalizing state before with
  | nil => rfl
  | cons token rest ih =>
    rw [List.cons_append, run, run, lastKind]
    cases step state before token with
    | error fault => rfl
    | ok next => exact ih next _

theorem run_append_of_ok {state next : Stacks} {before : Option TokenKind} {front : List Token}
    (h : run state before front = .ok next) (back : List Token) :
    run state before (front ++ back) = run next (lastKind before front) back := by
  rw [run_append, h]
  rfl

/-- Blanks do nothing. -/
theorem run_withoutSpaces (state : Stacks) (before : Option TokenKind) (tokens : List Token) :
    run state before tokens = run state before (Token.withoutSpaces tokens) := by
  induction tokens generalizing state before with
  | nil => rfl
  | cons token rest ih =>
    by_cases space : token.isSpace = true
    · rw [Token.withoutSpaces_cons_of_isSpace space, ← ih, run, if_pos space, step,
        Token.isSpace_eq_true_iff.1 space]
      rfl
    · rw [Token.withoutSpaces_cons_of_not_isSpace space, run, run]
      cases step state before token with
      | error fault => rfl
      | ok next => exact ih next _

/-! ## The invariant -/

/-- What assembly makes of a phrase. -/
def Builds (tokens : List Token) : Phrase → Prop
  | .item (.plain tree) => ∀ pending finished before, before ≠ some .number →
      run ⟨pending, finished⟩ before tokens = .ok ⟨pending, tree :: finished⟩
  | .item (.multiple factor group) => ∀ pending finished before, before ≠ some .number →
      run ⟨pending, finished⟩ before tokens =
        .ok ⟨.operator .mul :: pending, group :: factor :: finished⟩
  | .chain first rest =>
      (∀ pending finished before, before ≠ some .number → Below 3 pending →
        ∃ state, run ⟨pending, finished⟩ before tokens = .ok state ∧
          Settles 2 state ⟨pending, chainTree first rest :: finished⟩) ∧
      ∀ state before pending left finished o, o.kind = .operator .pow →
        Settles 3 state ⟨pending, left :: finished⟩ → Below 3 pending →
        ∃ next, run state before (o :: tokens) = .ok next ∧
          Settles 2 next ⟨pending, chainFrom left (first :: rest) :: finished⟩
  | .product tree => ∀ pending finished before, before ≠ some .number → Below 2 pending →
      ∃ state, run ⟨pending, finished⟩ before tokens = .ok state ∧
        Settles 2 state ⟨pending, tree :: finished⟩
  | .sum tree => ∀ pending finished before, before ≠ some .number → Below 1 pending →
      ∃ state, run ⟨pending, finished⟩ before tokens = .ok state ∧
        Settles 1 state ⟨pending, tree :: finished⟩

theorem Below.mono {level tighter : Nat} {pending : List Pending} (h : Below level pending)
    (le : level ≤ tighter) : Below tighter pending := by
  match pending, h with
  | [], _ => trivial
  | .group :: _, _ => trivial
  | .operator _ :: _, h => exact Nat.lt_of_lt_of_le h le

/-! ### Chains

A link of a chain is either folded onto what stands before it, or leaves its product pending
and passes the rest of the chain on to the group. -/

/-- Behind one more link that stands on its own, a chain has been folded once more. -/
theorem exists_run_power_plain {state : Stacks} {before : Option TokenKind}
    {pending : List Pending} {left right : Expr} {finished : List Expr} {o : Token}
    {link : List Token} (ho : o.kind = .operator .pow)
    (settles : Settles 3 state ⟨pending, left :: finished⟩) (below : Below 3 pending)
    (hlink : Builds link (.item (.plain right))) :
    ∃ next, run state before (o :: link) = .ok next ∧
      Settles 3 next ⟨pending, .binary .pow left right :: finished⟩ := by
  rw [run_operator ho settles below, hlink _ _ _ (by simp)]
  exact ⟨_, rfl, .reduce (Nat.le_refl 3) (.refl _)⟩

/-- Behind a number before a group, its product is pending, and whatever the group grows to
becomes the right side of the product. -/
theorem run_power_multiple {state : Stacks} {before : Option TokenKind}
    {pending : List Pending} {left factor group : Expr} {finished : List Expr} {o : Token}
    {link : List Token} (ho : o.kind = .operator .pow)
    (settles : Settles 3 state ⟨pending, left :: finished⟩) (below : Below 3 pending)
    (hlink : Builds link (.item (.multiple factor group))) :
    run state before (o :: link) = .ok ⟨.operator .mul :: .operator .pow :: pending,
      group :: factor :: left :: finished⟩ := by
  rw [run_operator ho settles below, hlink _ _ _ (by simp)]

theorem Settles.reduce_multiple {next : Stacks} {pending : List Pending}
    {left factor rest : Expr} {finished : List Expr}
    (h : Settles 2 next ⟨.operator .mul :: .operator .pow :: pending,
      rest :: factor :: left :: finished⟩) :
    Settles 2 next ⟨pending, .binary .pow left (.binary .mul factor rest) :: finished⟩ :=
  (h.reduce_last (Nat.le_refl 2)).reduce_last (by decide)

/-- A pending product binds less tightly than a power. -/
theorem below_mul (pending : List Pending) : Below 3 (.operator .mul :: pending) :=
  Nat.lt_succ_self 2

/-- A chain of one link. -/
theorem builds_link {only : List Token} {first : Item} (h : Builds only (.item first)) :
    Builds only (.chain first []) := by
  constructor
  · intro pending finished before free _
    cases first with
    | plain tree => exact ⟨_, h pending finished before free, .refl _⟩
    | multiple factor group =>
      exact ⟨_, h pending finished before free, .reduce (Nat.le_refl 2) (.refl _)⟩
  · intro state before pending left finished o ho settles below
    cases first with
    | plain tree =>
      obtain ⟨next, ran, settled⟩ := exists_run_power_plain ho settles below h
      exact ⟨next, ran, settled.mono (by decide)⟩
    | multiple factor group =>
      exact ⟨_, run_power_multiple ho settles below h, Settles.reduce_multiple (.refl _)⟩

/-- A chain with one more link in front. -/
theorem builds_power {front back : List Token} {o : Token} {first second : Item}
    {rest : List Item} (hfront : Builds front (.item first)) (ho : o.kind = .operator .pow)
    (hback : Builds back (.chain second rest)) :
    Builds (front ++ o :: back) (.chain first (second :: rest)) := by
  obtain ⟨-, continued⟩ := hback
  constructor
  · intro pending finished before free below
    cases first with
    | plain tree =>
      rw [run_append_of_ok (hfront pending finished before free)]
      exact continued _ _ _ _ _ o ho (.refl _) below
    | multiple factor group =>
      rw [run_append_of_ok (hfront pending finished before free)]
      obtain ⟨next, ran, settled⟩ := continued _ (lastKind before front)
        (.operator .mul :: pending) group (factor :: finished) o ho (.refl _) (below_mul _)
      exact ⟨next, ran, settled.reduce_last (Nat.le_refl 2)⟩
  · intro state before pending left finished sign hsign settles below
    rw [← List.cons_append]
    cases first with
    | plain tree =>
      obtain ⟨middle, ran, settled⟩ := exists_run_power_plain hsign settles below hfront
      rw [run_append_of_ok ran]
      exact continued _ _ _ _ _ o ho settled below
    | multiple factor group =>
      rw [run_append_of_ok (run_power_multiple hsign settles below hfront)]
      obtain ⟨next, ran, settled⟩ := continued _ (lastKind before (sign :: front))
        (.operator .mul :: .operator .pow :: pending) group (factor :: left :: finished) o ho
        (.refl _) (below_mul _)
      exact ⟨next, ran, settled.reduce_multiple⟩

/-! ### Products and sums -/

/-- Two sides of an operator, each of which settles to its tree, settle together to the
operation. -/
theorem exists_run_binary {op : Operator} {o : Token} {front back : List Token}
    {pending : List Pending} {finished : List Expr} {before : Option TokenKind}
    {left right : Expr} (ho : o.kind = .operator op) (below : Below op.precedence pending)
    (hfront : ∃ state, run ⟨pending, finished⟩ before front = .ok state ∧
      Settles op.precedence state ⟨pending, left :: finished⟩)
    (hback : ∃ state, run ⟨.operator op :: pending, left :: finished⟩ (some (.operator op)) back =
        .ok state ∧
      Settles op.precedence state ⟨.operator op :: pending, right :: left :: finished⟩) :
    ∃ state, run ⟨pending, finished⟩ before (front ++ o :: back) = .ok state ∧
      Settles op.precedence state ⟨pending, .binary op left right :: finished⟩ := by
  obtain ⟨middle, ran, settles⟩ := hfront
  obtain ⟨state, ran', settles'⟩ := hback
  rw [run_append_of_ok ran, run_operator ho settles below]
  exact ⟨state, ran', settles'.reduce_last (Nat.le_refl _)⟩

/-- A product goes on with a chain. -/
theorem builds_times {front back : List Token} {o : Token} {op : Operator} {left : Expr}
    {first : Item} {rest : List Item} (hfront : Builds front (.product left))
    (ho : o.kind = .operator op) (hop : op = .mul ∨ op = .div)
    (hback : Builds back (.chain first rest)) :
    Builds (front ++ o :: back) (.product (.binary op left (chainTree first rest))) := by
  have level : op.precedence = 2 := by rcases hop with rfl | rfl <;> rfl
  intro pending finished before free below
  have looser : Below 3 (.operator op :: pending) := by
    rw [Below, level]
    exact Nat.lt_succ_self 2
  have sides := hback.1 (.operator op :: pending) (left :: finished) (some (.operator op))
    (by simp) looser
  rw [← level] at below sides ⊢
  exact exists_run_binary ho below
    (level ▸ hfront pending finished before free (level ▸ below)) sides

/-- A sum goes on with a product. -/
theorem builds_plus {front back : List Token} {o : Token} {op : Operator} {left right : Expr}
    (hfront : Builds front (.sum left)) (ho : o.kind = .operator op)
    (hop : op = .add ∨ op = .sub) (hback : Builds back (.product right)) :
    Builds (front ++ o :: back) (.sum (.binary op left right)) := by
  have level : op.precedence = 1 := by rcases hop with rfl | rfl <;> rfl
  intro pending finished before free below
  have looser : Below 2 (.operator op :: pending) := by
    rw [Below, level]
    exact Nat.lt_succ_self 1
  obtain ⟨state, ran, settles⟩ := hback (.operator op :: pending) (left :: finished)
    (some (.operator op)) (by simp) looser
  have settled := settles.mono (Nat.le_succ 1)
  rw [← level] at below settled ⊢
  exact exists_run_binary ho below
    (level ▸ hfront pending finished before free (level ▸ below)) ⟨state, ran, settled⟩

/-! ### Whatever can be read -/

/-- **What assembly makes of whatever can be read.** -/
theorem builds_of_reads {tokens : List Token} {phrase : Phrase} (h : Reads tokens phrase) :
    Builds tokens phrase := by
  induction h with
  | number hn hvalue =>
    intro pending finished before _
    rw [run_number hn hvalue]
    rfl
  | @group l r inner tree hl _ hr ih =>
    intro pending finished before free
    obtain ⟨state, ran, settles⟩ := ih (.group :: pending) finished (some .openParen) (by simp)
      trivial
    rw [run_openParen hl free, run_append_of_ok ran, run_closeParen hr settles]
    rfl
  | @multiple n l r inner value tree hn hvalue hl _ hr ih =>
    intro pending finished before _
    obtain ⟨state, ran, settles⟩ := ih (.group :: .operator .mul :: pending)
      (.number value :: finished) (some .openParen) (by simp) trivial
    rw [run_number hn hvalue, run_openParen_of_number hl, run_append_of_ok ran,
      run_closeParen hr settles]
    rfl
  | link _ ih => exact builds_link ih
  | power _ ho _ ihFront ihBack => exact builds_power ihFront ho ihBack
  | chain _ ih =>
    intro pending finished before free below
    exact ih.1 pending finished before free (below.mono (by decide))
  | times _ ho hop _ ihFront ihBack => exact builds_times ihFront ho hop ihBack
  | product _ ih =>
    intro pending finished before free below
    obtain ⟨state, ran, settles⟩ := ih pending finished before free (below.mono (by decide))
    exact ⟨state, ran, settles.mono (by decide)⟩
  | plus _ ho hop _ ihFront ihBack => exact builds_plus ihFront ho hop ihBack

/-! ## The whole -/

/-- Assembly of tokens that read as a sum leaves its tree alone on the stacks. -/
theorem exists_run_of_reads {tokens : List Token} {tree : Expr}
    (h : Reads (Token.withoutSpaces tokens) (.sum tree)) :
    ∃ state, run ⟨[], []⟩ none tokens = .ok state ∧
      completeAll state.pending state.finished = .ok [tree] := by
  obtain ⟨state, ran, settles⟩ := builds_of_reads h [] [] none (by simp) trivial
  refine ⟨state, ?_, ?_⟩
  · rw [run_withoutSpaces, ran]
  · rw [completeAll_of_settles settles]
    rfl

theorem ofTokens_of_run {tokens : List Token} {state : Stacks} {tree : Expr}
    {others : List Expr} (ran : run ⟨[], []⟩ none tokens = .ok state)
    (completed : completeAll state.pending state.finished = .ok (tree :: others)) :
    Expr.ofTokens tokens = .ok tree := by
  simp only [Expr.ofTokens, ran, bind, Except.bind, completed]

/-- Tokens read as one sum at most, and it is the one that assembly gives. -/
theorem ofTokens_of_reads {tokens : List Token} {tree : Expr}
    (h : Reads (Token.withoutSpaces tokens) (.sum tree)) : Expr.ofTokens tokens = .ok tree := by
  obtain ⟨state, ran, completed⟩ := exists_run_of_reads h
  exact ofTokens_of_run ran completed

/-- Tokens in order read as a sum. -/
theorem exists_reads_of_check {tokens : List Token} (h : Arrangement.check tokens = .ok ())
    (values : NumbersHaveValues tokens) :
    ∃ tree, Reads (Token.withoutSpaces tokens) (.sum tree) :=
  Expr.exists_reads_of_derives (Arrangement.derives_of_check h) fun token mem =>
    values token (List.mem_filter.1 mem).1

/-- **Assembly builds the tree of the grammar.**  Tokens in order whose numbers have values read
as exactly one sum.  Assembly of them does not fail, gives the tree of that sum, and has
nothing else on its stacks in the end. -/
theorem ofTokens_eq_tree {tokens : List Token} (h : Arrangement.check tokens = .ok ())
    (values : NumbersHaveValues tokens) :
    ∃ tree, (∀ other, Reads (Token.withoutSpaces tokens) (.sum other) ↔ other = tree) ∧
      Expr.ofTokens tokens = .ok tree ∧
      ∃ state, run ⟨[], []⟩ none tokens = .ok state ∧
        completeAll state.pending state.finished = .ok [tree] := by
  obtain ⟨tree, reads⟩ := exists_reads_of_check h values
  refine ⟨tree, fun other => ⟨fun hother => ?_, ?_⟩, ofTokens_of_reads reads,
    exists_run_of_reads reads⟩
  · exact Except.ok.inj ((ofTokens_of_reads hother).symm.trans (ofTokens_of_reads reads))
  · rintro rfl
    exact reads

/-- The tokens of `2^ 3(4)`. -/
def powerOfMultiple : List Token :=
  [⟨.number, "2"⟩, ⟨.operator .pow, "^"⟩, ⟨.space, " "⟩, ⟨.number, "3"⟩, ⟨.openParen, "("⟩,
    ⟨.number, "4"⟩, ⟨.closeParen, ")"⟩]

/-- The product of a number and a group is the right side of a power before it. -/
theorem ofTokens_powerOfMultiple :
    Arrangement.check powerOfMultiple = .ok () ∧ NumbersHaveValues powerOfMultiple ∧
      ∃ two three four : Binary64, Expr.ofTokens powerOfMultiple =
        .ok (.binary .pow (.number two) (.binary .mul (.number three) (.number four))) := by
  have ordered : Arrangement.check powerOfMultiple = .ok () := rfl
  have values : NumbersHaveValues powerOfMultiple := by
    simp only [NumbersHaveValues, ← Option.isSome_iff_exists]
    decide +kernel
  obtain ⟨two, htwo⟩ := values ⟨.number, "2"⟩ (by decide) rfl
  obtain ⟨three, hthree⟩ := values ⟨.number, "3"⟩ (by decide) rfl
  obtain ⟨four, hfour⟩ := values ⟨.number, "4"⟩ (by decide) rfl
  obtain ⟨tree, unique, built, -⟩ := ofTokens_eq_tree ordered values
  have group : Reads [⟨.number, "4"⟩] (.sum (.number four)) :=
    .product (.chain (.link (.number rfl hfour)))
  have reads : Reads (Token.withoutSpaces powerOfMultiple) (.sum
      (.binary .pow (.number two) (.binary .mul (.number three) (.number four)))) :=
    .product (.chain (.power (.number rfl htwo) rfl
      (.link (.multiple rfl hthree rfl group rfl))))
  refine ⟨ordered, values, two, three, four, ?_⟩
  rw [built, (unique _).1 reads]

end Assembly

end Reckon
