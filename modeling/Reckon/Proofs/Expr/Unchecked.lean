import Reckon.Proofs.Arrangement.Earliest
import Reckon.Proofs.Expr.Leaves

/-!
# Assembly of tokens that have not been checked

`Expr.ofTokens` is meant for tokens whose arrangement is in order, but gives an answer for any
tokens.  Out of order, operands can be missing or be left over, and an operator can even join
operands across the groups of the source.  Two things still hold of the stacks at all times:

* the finished expressions have at their leaves the numbers that have been read
  (`leavesOf_of_run`);
* there are as many groups pending as parentheses have been opened and not closed
  (`openGroups_of_run`).

The second decides which fault is reported.  A closing parenthesis lacks its group only where no
group is pending, and then the tokens up to it close more parentheses than they open.  A group is
left over in the end only where the tokens open more than they close.  All other faults are
missing operands, and they are reported in the words for a closing parenthesis without a group.

So what comes out of the assembly of arbitrary tokens is never a tree of tokens whose
parentheses do not match, but it may be a tree of only the last of the numbers
(`ofTokens_outcome`).
-/

namespace Reckon

/-- Whether the parentheses are balanced. -/
structure Token.Balanced (tokens : List Token) : Prop where
  /-- Every closing parenthesis closes one before it. -/
  closesOpened : ClosesOpened tokens
  /-- Every opening parenthesis is closed. -/
  closesAll : ¬ LeftOpen tokens

/-- A tree has leaves. -/
theorem Expr.leaves_ne_nil : (tree : Expr) → tree.leaves ≠ []
  | .number _ => by simp
  | .binary _ left _ => by simp [leaves_ne_nil left]

namespace Assembly

open Reckon.Expr (NumbersHaveValues)
open Token (openings closings ClosesOpened LeftOpen Balanced)

variable {fault : AssemblyFault} {state next : Stacks} {before : Option TokenKind}
  {pending : List Pending} {finished completed : List Expr}

/-- A fault of two steps in turn is one of the first, or of the second after the first. -/
theorem error_or_of_bind_eq_error {ε α β : Type} {first : Except ε α} {second : α → Except ε β}
    {fault : ε} (h : first >>= second = .error fault) :
    first = .error fault ∨ ∃ middle, first = .ok middle ∧ second middle = .error fault := by
  cases first with
  | error other =>
    cases Except.error.inj h
    exact .inl rfl
  | ok middle => exact .inr ⟨middle, rfl, h⟩

/-! ## The groups that are pending -/

/-- How many groups are pending. -/
def openGroups (pending : List Pending) : Nat := pending.count .group

@[simp] theorem openGroups_nil : openGroups [] = 0 := rfl

@[simp] theorem openGroups_group_cons (pending : List Pending) :
    openGroups (.group :: pending) = openGroups pending + 1 := List.count_cons_self

@[simp] theorem openGroups_operator_cons (op : Operator) (pending : List Pending) :
    openGroups (.operator op :: pending) = openGroups pending := by
  simp [openGroups]

theorem openGroups_of_settles {least : Nat} (h : Settles least state next) :
    openGroups next.pending = openGroups state.pending := by
  induction h with
  | refl => rfl
  | reduce _ _ ih => rw [ih, openGroups_operator_cons]

/-- Closing takes one group. -/
theorem openGroups_of_closeGroup (h : closeGroup pending finished = .ok state) :
    openGroups pending = openGroups state.pending + 1 := by
  rw [← openGroups_group_cons]
  exact (openGroups_of_settles (settles_of_closeGroup h)).symm

/-- No group is left over where everything is completed. -/
theorem openGroups_of_completeAll (h : completeAll pending finished = .ok completed) :
    openGroups pending = 0 :=
  (openGroups_of_settles (settles_of_completeAll h)).symm

/-- A token opens or closes as many groups as parentheses. -/
theorem openGroups_of_step {token : Token} (h : step state before token = .ok next) :
    openGroups next.pending + closings [token] = openGroups state.pending + openings [token] := by
  cases kind : token.kind with
  | number =>
    simp only [step, kind] at h
    split at h
    · cases Except.ok.inj h
      simp [openings, closings, kind]
    · exact absurd h (by simp)
  | space =>
    simp only [step, kind] at h
    cases Except.ok.inj h
    simp [openings, closings, kind]
  | openParen =>
    simp only [step, kind] at h
    cases Except.ok.inj h
    split <;> simp [openings, closings, kind]
  | operator op =>
    simp only [step, kind] at h
    obtain ⟨middle, tighter, pushed⟩ := exists_of_bind_eq_ok h
    cases Except.ok.inj pushed
    simp [openings, closings, kind, openGroups_of_settles (settles_of_completeTighter tighter)]
  | closeParen =>
    simp only [step, kind] at h
    simp [openings, closings, kind, openGroups_of_closeGroup h]

/-- **As many groups are pending as parentheses are open.** -/
theorem openGroups_of_run {tokens : List Token} (h : run state before tokens = .ok next) :
    openGroups next.pending + closings tokens = openGroups state.pending + openings tokens := by
  induction tokens generalizing state before with
  | nil =>
    cases Except.ok.inj h
    rfl
  | cons token rest ih =>
    obtain ⟨middle, stepped, ran⟩ := exists_of_bind_eq_ok h
    have first := openGroups_of_step stepped
    have others := ih ran
    rw [← List.singleton_append, Token.closings_append, Token.openings_append]
    omega

/-- Where everything is read, every closing parenthesis closes one before it. -/
theorem closesOpened_of_run {tokens : List Token} (h : run ⟨[], []⟩ none tokens = .ok next) :
    ClosesOpened tokens := by
  rintro front ⟨back, rfl⟩
  rw [run_append] at h
  obtain ⟨middle, ran, -⟩ := exists_of_bind_eq_ok h
  have counted : openGroups middle.pending + closings front = 0 + openings front :=
    openGroups_of_run ran
  omega

/-! ## Faults -/

theorem eq_missingOperand_of_reduce {op : Operator} (h : reduce op finished = .error fault) :
    fault = .missingOperand := by
  unfold reduce at h
  split at h
  · exact absurd h (by simp)
  · exact (Except.error.inj h).symm

theorem eq_missingOperand_of_completeTighter {op : Operator}
    (h : completeTighter op pending finished = .error fault) : fault = .missingOperand := by
  induction pending generalizing finished with
  | nil => exact absurd h (by simp [completeTighter])
  | cons top pending ih =>
    cases top with
    | group => exact absurd h (by simp [completeTighter])
    | operator top =>
      rw [completeTighter] at h
      split at h
      · exact absurd h (by simp)
      · obtain reduced | ⟨joined, -, rest⟩ := error_or_of_bind_eq_error h
        · exact eq_missingOperand_of_reduce reduced
        · exact ih rest

/-- Closing fails for want of an operand, or for want of a group. -/
theorem fault_of_closeGroup (h : closeGroup pending finished = .error fault) :
    fault = .missingOperand ∨ fault = .unmatchedClose ∧ openGroups pending = 0 := by
  induction pending generalizing finished with
  | nil => exact .inr ⟨(Except.error.inj h).symm, rfl⟩
  | cons top pending ih =>
    cases top with
    | group => exact absurd h (by simp [closeGroup])
    | operator op =>
      obtain reduced | ⟨joined, -, rest⟩ := error_or_of_bind_eq_error h
      · exact .inl (eq_missingOperand_of_reduce reduced)
      · rw [openGroups_operator_cons]
        exact ih rest

/-- Completing everything fails for want of an operand, or because a group is left over. -/
theorem fault_of_completeAll (h : completeAll pending finished = .error fault) :
    fault = .missingOperand ∨ fault = .unclosedGroup ∧ openGroups pending ≠ 0 := by
  induction pending generalizing finished with
  | nil => exact absurd h (by simp [completeAll])
  | cons top pending ih =>
    obtain reduced | ⟨joined, -, rest⟩ := error_or_of_bind_eq_error h
    · cases top with
      | operator op => exact .inl (eq_missingOperand_of_reduce reduced)
      | group =>
        unfold reducePending at reduced
        split at reduced <;> simp_all
    · cases top with
      | operator op =>
        rw [openGroups_operator_cons]
        exact ih rest
      | group =>
        rw [openGroups_group_cons]
        exact (ih rest).imp_right (And.imp_right fun _ => Nat.succ_ne_zero _)

/-- A token fails for want of an operand, or is a closing parenthesis and no group is pending. -/
theorem fault_of_step {token : Token} (values : NumbersHaveValues [token])
    (h : step state before token = .error fault) :
    fault = .missingOperand ∨
      fault = .unmatchedClose ∧ openGroups state.pending + openings [token] < closings [token] := by
  cases kind : token.kind with
  | number =>
    obtain ⟨value, hvalue⟩ := values token (List.mem_singleton_self _) kind
    simp only [step, kind, hvalue] at h
    exact absurd h (by simp)
  | space =>
    simp only [step, kind] at h
    exact absurd h (by simp)
  | openParen =>
    simp only [step, kind] at h
    exact absurd h (by simp)
  | operator op =>
    simp only [step, kind] at h
    obtain tighter | ⟨middle, -, pushed⟩ := error_or_of_bind_eq_error h
    · exact .inl (eq_missingOperand_of_completeTighter tighter)
    · exact absurd pushed (by simp)
  | closeParen =>
    simp only [step, kind] at h
    obtain missing | ⟨unmatched, closed⟩ := fault_of_closeGroup h
    · exact .inl missing
    · exact .inr ⟨unmatched, by simp [openings, closings, kind, closed]⟩

/-- Reading fails for want of an operand, or where a beginning closes more than was opened. -/
theorem fault_of_run {tokens : List Token} (values : NumbersHaveValues tokens)
    (h : run state before tokens = .error fault) :
    fault = .missingOperand ∨ fault = .unmatchedClose ∧
      ∃ front, front <+: tokens ∧ openGroups state.pending + openings front < closings front := by
  induction tokens generalizing state before with
  | nil => exact absurd h (by simp [run])
  | cons token rest ih =>
    have others : NumbersHaveValues rest := fun other mem =>
      values other (List.mem_cons_of_mem _ mem)
    obtain failed | ⟨middle, stepped, ran⟩ := error_or_of_bind_eq_error h
    · have first : NumbersHaveValues [token] := by
        simpa [NumbersHaveValues] using values token (List.mem_cons_self ..)
      obtain missing | ⟨unmatched, more⟩ := fault_of_step first failed
      · exact .inl missing
      · exact .inr ⟨unmatched, [token], ⟨rest, rfl⟩, more⟩
    · have first := openGroups_of_step stepped
      obtain missing | ⟨unmatched, front, beginning, more⟩ := ih others ran
      · exact .inl missing
      · refine .inr ⟨unmatched, token :: front, (List.prefix_cons_inj token).2 beginning, ?_⟩
        rw [← List.singleton_append, Token.closings_append, Token.openings_append]
        omega

/-! ## The outcome -/

theorem ofTokens_of_run_error {tokens : List Token}
    (ran : run ⟨[], []⟩ none tokens = .error fault) : Expr.ofTokens tokens = .error fault := by
  simp only [Expr.ofTokens, ran, bind, Except.bind]

theorem ofTokens_of_completeAll_error {tokens : List Token}
    (ran : run ⟨[], []⟩ none tokens = .ok state)
    (failed : completeAll state.pending state.finished = .error fault) :
    Expr.ofTokens tokens = .error fault := by
  simp only [Expr.ofTokens, ran, bind, Except.bind, failed]

/-- There is no result where nothing has been finished. -/
theorem ofTokens_of_completeAll_nil {tokens : List Token}
    (ran : run ⟨[], []⟩ none tokens = .ok state)
    (completed : completeAll state.pending state.finished = .ok []) :
    Expr.ofTokens tokens = .error .missingOperand := by
  simp only [Expr.ofTokens, ran, bind, Except.bind, completed]

/-- **What comes out of the assembly of arbitrary tokens.**  A tree, only where the parentheses
are balanced, of the last numbers; or a fault with the words of an empty stack; or, only where
every closing parenthesis closes one before it and one is left open, the fault of a group that
is left over. -/
theorem ofTokens_outcome (tokens : List Token) (values : NumbersHaveValues tokens) :
    (∃ tree, Expr.ofTokens tokens = .ok tree ∧ Balanced tokens ∧
      tree.leaves ≠ [] ∧ tree.leaves <:+ Token.values tokens) ∨
    (∃ fault, Expr.ofTokens tokens = .error fault ∧
      (fault = .missingOperand ∨ fault = .unmatchedClose ∧ ¬ ClosesOpened tokens) ∧
      fault.message = "pop from empty list") ∨
    Expr.ofTokens tokens = .error .unclosedGroup ∧
      AssemblyFault.unclosedGroup.message = "<TokenType.LPAREN: 7>" ∧
      ClosesOpened tokens ∧ LeftOpen tokens := by
  cases ran : run ⟨[], []⟩ none tokens with
  | error fault =>
    refine .inr (.inl ⟨fault, ofTokens_of_run_error ran, ?_⟩)
    obtain rfl | ⟨rfl, front, beginning, more⟩ := fault_of_run values ran
    · exact ⟨.inl rfl, rfl⟩
    · refine ⟨.inr ⟨rfl, fun closes => ?_⟩, rfl⟩
      have fewer : closings front ≤ openings front := closes front beginning
      rw [openGroups_nil] at more
      omega
  | ok state =>
    have closes : ClosesOpened tokens := closesOpened_of_run ran
    have counted : openGroups state.pending + closings tokens = 0 + openings tokens :=
      openGroups_of_run ran
    cases all : completeAll state.pending state.finished with
    | error fault =>
      have failed := ofTokens_of_completeAll_error ran all
      obtain rfl | ⟨rfl, leftOver⟩ := fault_of_completeAll all
      · exact .inr (.inl ⟨_, failed, .inl rfl, rfl⟩)
      · exact .inr (.inr ⟨failed, rfl, closes, closes.leftOpen_iff.2 (by omega)⟩)
    | ok completed =>
      cases completed with
      | nil => exact .inr (.inl ⟨_, ofTokens_of_completeAll_nil ran all, .inl rfl, rfl⟩)
      | cons tree below =>
        have closed : openGroups state.pending = 0 := openGroups_of_completeAll all
        have balanced : Balanced tokens := ⟨closes, by rw [closes.leftOpen_iff]; omega⟩
        have leaves : leavesOf (tree :: below) = Token.values tokens :=
          (leavesOf_of_completeAll all).trans (leavesOf_of_run ran)
        refine .inl ⟨tree, ofTokens_of_run ran all, balanced, tree.leaves_ne_nil, ?_⟩
        rw [← leaves]
        exact List.suffix_append ..

/-- The tokens of `7 2*3`. -/
def leftoverOperand : List Token :=
  [⟨.number, "7"⟩, ⟨.space, " "⟩, ⟨.number, "2"⟩, ⟨.operator .mul, "*"⟩, ⟨.number, "3"⟩]

/-- An operand that is left over does not get into the tree. -/
theorem ofTokens_outcome_leftoverOperand :
    NumbersHaveValues leftoverOperand ∧ ∃ tree, Expr.ofTokens leftoverOperand = .ok tree ∧
      tree.leaves <:+ Token.values leftoverOperand ∧
      tree.leaves.length = 2 ∧ (Token.values leftoverOperand).length = 3 := by
  have values : NumbersHaveValues leftoverOperand := by
    simp only [NumbersHaveValues, ← Option.isSome_iff_exists]
    decide +kernel
  have product : (Expr.ofTokens leftoverOperand).toOption.map (·.leaves.length) = some 2 := by
    decide +kernel
  refine ⟨values, ?_⟩
  obtain ⟨tree, built, -, -, last⟩ | ⟨fault, failed, -⟩ | ⟨failed, -⟩ :=
    ofTokens_outcome leftoverOperand values
  · rw [built] at product
    exact ⟨tree, built, last, Option.some.inj product, Token.length_values values⟩
  · rw [failed] at product
    cases product
  · rw [failed] at product
    cases product

end Assembly

end Reckon
