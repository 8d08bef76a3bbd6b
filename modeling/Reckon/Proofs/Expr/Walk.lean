import Reckon.Expr.Value

/-!
# The walk of a tree, turn by turn

`Expr.run` works through tasks with a stack of values beside them.  This module looks at it one
turn at a time.  A `Stage` is what there is between two turns, and `turn` takes the first task away:
a number goes to the values, an operator node is replaced by its two sides and the task to combine
them, and a combination takes two values and gives one.  `run_turns` says that `run` is nothing but
these turns.

## What a turn keeps

Two things carry the argument, and both hold between any two turns.

* `Stage.outcome` is what a stage comes to if every tree that is still to be visited is given its
  value by recursion.  A turn does not change it (`outcome_turn`).  At the start it is the value of
  the tree alone, so a combination that lacks a value never comes up: it would be the outcome.
* `Stage.remaining` counts the tasks that are still to come, those of the sides of a node included.
  A turn takes away exactly one (`remaining_turn`).  A node is taken up twice, once to be replaced
  and once to be combined, and is counted twice for that.

So the walk is over after as many turns as the tree has tasks, with one value left
(`calculateWith_eq_recursion`).
-/

namespace Reckon

namespace Expr

variable (apply : Operator → Binary64 → Binary64 → Except ArithmeticFault Binary64)

/-- The value of a tree by recursion, where operations always have a result: that of a number is its
own, and that of a node is the result of its operation on the values of its two sides. -/
def valueBy (result : Operator → Binary64 → Binary64 → Binary64) : Expr → Binary64
  | number value => value
  | binary op left right => result op (left.valueBy result) (right.valueBy result)

/-- Operations that always have a result, as ones that may refuse their operands. -/
def unrefusing (result : Operator → Binary64 → Binary64 → Binary64) :
    Operator → Binary64 → Binary64 → Except ArithmeticFault Binary64 :=
  fun op a b => .ok (result op a b)

theorem fold_unrefusing (result : Operator → Binary64 → Binary64 → Binary64) (tree : Expr) :
    tree.fold (unrefusing result) = .ok (tree.valueBy result) := by
  induction tree with
  | number value => rfl
  | binary op left right ihLeft ihRight =>
    rw [fold, ihLeft, ihRight]
    rfl

/-- A task stands for at least one turn. -/
theorem Task.count_pos (task : Task) : 0 < task.count := by
  cases task with
  | visit tree => cases tree <;> exact Nat.succ_pos _
  | combine op => exact Nat.one_pos

/-! ## Turns -/

/-- What there is between two turns: the tasks still to be done and the values, the next and the
topmost first. -/
structure Stage where
  tasks : List Task
  values : List Binary64

namespace Stage

/-- Before the first turn. -/
def start (tree : Expr) : Stage := ⟨[.visit tree], []⟩

/-- One turn.  Without a task there is nothing to do. -/
def turn : Stage → Except ValueFault Stage
  | ⟨[], values⟩ => .ok ⟨[], values⟩
  | ⟨.visit (.number value) :: tasks, values⟩ => .ok ⟨tasks, value :: values⟩
  | ⟨.visit (.binary op left right) :: tasks, values⟩ =>
    .ok ⟨.visit left :: .visit right :: .combine op :: tasks, values⟩
  | ⟨.combine op :: tasks, right :: left :: values⟩ =>
    match apply op left right with
    | .ok value => .ok ⟨tasks, value :: values⟩
    | .error fault => .error (.refused fault)
  | ⟨.combine _ :: _, _⟩ => .error .missingValue

/-- A number of turns. -/
def turns : Nat → Stage → Except ValueFault Stage
  | 0, stage => .ok stage
  | count + 1, stage => turn apply stage >>= turns count

/-- What is left to be done, in turns. -/
def remaining (stage : Stage) : Nat :=
  stage.tasks.foldr (fun task rest => task.count + rest) 0

/-- The values that tasks leave behind if every visited tree is given its value by recursion. -/
def outcomeOf : List Task → List Binary64 → Except ValueFault (List Binary64)
  | [], values => .ok values
  | .visit tree :: tasks, values =>
    match tree.fold apply with
    | .ok value => outcomeOf tasks (value :: values)
    | .error fault => .error (.refused fault)
  | .combine op :: tasks, right :: left :: values =>
    match apply op left right with
    | .ok value => outcomeOf tasks (value :: values)
    | .error fault => .error (.refused fault)
  | .combine _ :: _, _ => .error .missingValue

/-- What a stage comes to. -/
def outcome (stage : Stage) : Except ValueFault (List Binary64) :=
  outcomeOf apply stage.tasks stage.values

@[simp] theorem remaining_cons (task : Task) (tasks : List Task) (values : List Binary64) :
    remaining ⟨task :: tasks, values⟩ = task.count + remaining ⟨tasks, values⟩ := rfl

/-- A stage from which nothing is left to be done has no tasks. -/
theorem tasks_eq_nil {stage : Stage} (h : stage.remaining = 0) : stage.tasks = [] := by
  obtain ⟨_ | ⟨task, tasks⟩, values⟩ := stage
  · rfl
  · rw [remaining_cons] at h
    have := task.count_pos
    omega

/-! ## What one turn keeps -/

/-- **The walk is made of turns.** -/
theorem run_turn (stage : Stage) :
    run apply stage.tasks stage.values =
      turn apply stage >>= fun next => run apply next.tasks next.values := by
  fun_cases turn apply stage with
  | case1 values => rfl
  | case2 value tasks values =>
    rw [run]
    rfl
  | case3 op left right tasks values =>
    rw [run]
    rfl
  | case4 op tasks right left values value applied =>
    rw [run, applied]
    rfl
  | case5 op tasks right left values fault refused =>
    rw [run, refused]
    rfl
  | case6 op tasks values few =>
    rw [run]
    · rfl
    · exact few

/-- **A turn keeps the outcome.** -/
theorem outcome_turn (stage : Stage) : turn apply stage >>= outcome apply = outcome apply stage := by
  fun_cases turn apply stage with
  | case1 values => rfl
  | case2 value tasks values => rfl
  | case3 op left right tasks values =>
    show outcomeOf apply (.visit left :: .visit right :: .combine op :: tasks) values =
      outcomeOf apply (.visit (.binary op left right) :: tasks) values
    simp only [outcomeOf, fold]
    cases left.fold apply with
    | error fault => rfl
    | ok a =>
      cases right.fold apply with
      | error fault => rfl
      | ok b => rfl
  | case4 op tasks right left values value applied =>
    show outcomeOf apply tasks (value :: values) = outcomeOf apply (.combine op :: tasks) _
    rw [outcomeOf, applied]
  | case5 op tasks right left values fault refused =>
    show .error (.refused fault) = outcomeOf apply (.combine op :: tasks) _
    rw [outcomeOf, refused]
  | case6 op tasks values few =>
    show .error .missingValue = outcomeOf apply (.combine op :: tasks) values
    rw [outcomeOf]
    exact few

/-- A turn takes away one task, if there is one. -/
theorem remaining_turn {stage next : Stage} (h : turn apply stage = .ok next) :
    next.remaining = stage.remaining - 1 := by
  fun_cases turn apply stage with
  | case1 values =>
    cases h
    rfl
  | case2 value tasks values =>
    cases h
    rw [remaining_cons, Task.count, taskCount]
    exact (Nat.add_sub_cancel_left ..).symm
  | case3 op left right tasks values =>
    cases h
    simp only [remaining_cons, Task.count, taskCount]
    omega
  | case4 op tasks right left values value applied =>
    simp only [turn, applied] at h
    cases h
    rw [remaining_cons, Task.count]
    exact (Nat.add_sub_cancel_left ..).symm
  | case5 op tasks right left values fault refused =>
    simp only [turn, refused] at h
    cases h
  | case6 op tasks values few =>
    rw [turn] at h
    · cases h
    · exact few

/-! ## What turns keep -/

theorem run_turns (count : Nat) (stage : Stage) :
    run apply stage.tasks stage.values =
      turns apply count stage >>= fun next => run apply next.tasks next.values := by
  induction count generalizing stage with
  | zero => rfl
  | succ count ih =>
    rw [run_turn, turns, bind_assoc]
    exact congrArg _ (funext ih)

theorem outcome_turns (count : Nat) (stage : Stage) :
    turns apply count stage >>= outcome apply = outcome apply stage := by
  induction count generalizing stage with
  | zero => rfl
  | succ count ih =>
    rw [turns, bind_assoc, ← outcome_turn apply stage]
    exact congrArg _ (funext ih)

theorem remaining_turns {count : Nat} {stage next : Stage} (h : turns apply count stage = .ok next) :
    next.remaining = stage.remaining - count := by
  induction count generalizing stage with
  | zero =>
    cases h
    rfl
  | succ count ih =>
    rw [turns] at h
    cases turned : turn apply stage with
    | error fault =>
      rw [turned] at h
      cases h
    | ok behind =>
      rw [turned] at h
      rw [ih h, remaining_turn apply turned]
      omega

/-- At the start, the outcome is the value of the tree. -/
theorem outcome_start (tree : Expr) :
    outcome apply (start tree) =
      ((tree.fold apply).map fun value => [value]).mapError .refused := by
  show outcomeOf apply [.visit tree] [] = _
  rw [outcomeOf]
  cases tree.fold apply with
  | error fault => rfl
  | ok value => rfl

/-- **After any number of turns** the walk stands at a stage with the outcome of the start, or it has
stopped at the first refusal of the recursion. -/
theorem turns_start_cases (count : Nat) (tree : Expr) :
    (∃ stage, turns apply count (start tree) = .ok stage ∧
      stage.remaining = tree.taskCount - count ∧
      outcome apply stage = ((tree.fold apply).map fun value => [value]).mapError .refused) ∨
    ∃ fault, turns apply count (start tree) = .error (.refused fault) ∧
      tree.fold apply = .error fault := by
  have kept := outcome_turns apply count (start tree)
  rw [outcome_start] at kept
  cases reached : turns apply count (start tree) with
  | ok stage =>
    rw [reached] at kept
    exact .inl ⟨stage, rfl, remaining_turns apply reached, kept⟩
  | error stopped =>
    rw [reached] at kept
    cases folded : tree.fold apply with
    | ok value =>
      rw [folded] at kept
      cases kept
    | error fault =>
      rw [folded] at kept
      cases kept
      exact .inr ⟨fault, rfl, rfl⟩

/-- After as many turns as the tree has tasks, the walk is over. -/
theorem turns_taskCount (tree : Expr) :
    turns apply tree.taskCount (start tree) =
      ((tree.fold apply).map fun value => ⟨[], [value]⟩).mapError .refused := by
  rcases turns_start_cases apply tree.taskCount tree with
    ⟨⟨tasks, values⟩, reached, remaining, outcome⟩ | ⟨fault, stopped, folded⟩
  · have finished : tasks = [] := tasks_eq_nil (remaining.trans (Nat.sub_self _))
    subst finished
    rw [reached]
    cases folded : tree.fold apply with
    | ok value =>
      rw [folded] at outcome
      cases outcome
      rfl
    | error fault =>
      rw [folded] at outcome
      cases outcome
  · rw [stopped, folded]
    rfl

end Stage

open Stage

/-- **The walk of a tree gives its value by recursion**, whatever the operations.

The walk takes as many turns as the tree has tasks.  After any number of them it stands where the
same outcome is still to come, with so many turns fewer to go; or an operation has refused its
operands, and the recursion stops at the same refusal.  No turn lacks a value.  At the end one value
is left, and it is the value by recursion. -/
theorem calculateWith_eq_recursion (tree : Expr) :
    run apply [.visit tree] [] =
      (turns apply tree.taskCount (start tree)).map Stage.values ∧
    (∀ count,
      (∃ stage, turns apply count (start tree) = .ok stage ∧
        stage.remaining = tree.taskCount - count ∧
        outcome apply stage = outcome apply (start tree)) ∨
      ∃ fault, turns apply count (start tree) = .error (.refused fault) ∧
        tree.fold apply = .error fault) ∧
    turns apply tree.taskCount (start tree) =
      ((tree.fold apply).map fun value => ⟨[], [value]⟩).mapError .refused ∧
    tree.calculateWith apply = (tree.fold apply).mapError .refused ∧
    ∀ result, turns (unrefusing result) tree.taskCount (start tree) =
        .ok ⟨[], [tree.valueBy result]⟩ ∧
      tree.calculateWith (unrefusing result) = .ok (tree.valueBy result) := by
  refine ⟨?_, fun count => ?_, turns_taskCount apply tree, calculateWith_eq apply tree,
    fun result => ⟨?_, ?_⟩⟩
  · refine (run_turns apply tree.taskCount (start tree)).trans ?_
    rw [turns_taskCount]
    cases tree.fold apply with
    | ok value =>
      show run apply [] [value] = .ok [value]
      rw [run]
    | error fault => rfl
  · rw [outcome_start]
    exact turns_start_cases apply count tree
  · rw [turns_taskCount, fold_unrefusing]
    rfl
  · rw [calculateWith_eq, fold_unrefusing]
    rfl

end Expr

end Reckon
