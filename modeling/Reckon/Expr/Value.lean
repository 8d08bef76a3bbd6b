import Reckon.Expr.Basic
import Reckon.Binary64.Guarded

/-!
# The value of an expression

The value of an operator node is its operation applied to the values of its two sides.
`fold` says just that, by recursion on the tree.  An operation may refuse its operands, and
the first refusal, left side before right side, is then all there is.

Expressions can be nested as deeply as a source is long, and a recursion of that depth has
no place to run.  `calculateWith` therefore works through a list of tasks with a stack of
values beside it: a node is replaced by its two sides and, behind them, the task to combine
their values.  `run_visit` says that visiting a tree does nothing but put its value on the
stack, so a task to combine always finds two values and exactly one is left at the end.
-/

namespace Reckon

/-- Why working through a tree gives no value: a value is asked for where there is none, or
an operation refuses its operands. -/
inductive ValueFault where
  | missingValue
  | refused (fault : ArithmeticFault)
  deriving DecidableEq, Repr

/-- The text of a fault. -/
def ValueFault.message : ValueFault → String
  | missingValue => "pop from empty list"
  | refused fault => fault.message

namespace Expr

variable (apply : Operator → Binary64 → Binary64 → Except ArithmeticFault Binary64)

/-- The value of a tree by recursion, with the operations given. -/
def fold : Expr → Except ArithmeticFault Binary64
  | number value => .ok value
  | binary op left right => do
    let a ← left.fold
    let b ← right.fold
    apply op a b

/-- Something still to be done. -/
inductive Task where
  | visit (tree : Expr)
  | combine (op : Operator)

/-- The number of tasks that a tree gives rise to. -/
def taskCount : Expr → Nat
  | number _ => 1
  | binary _ left right => left.taskCount + right.taskCount + 2

/-- The number of tasks that a task gives rise to. -/
def Task.count : Task → Nat
  | visit tree => tree.taskCount
  | combine _ => 1

/-- Works through tasks with a stack of values.  A combination that finds fewer than two
values is a fault. -/
def run : List Task → List Binary64 → Except ValueFault (List Binary64)
  | [], values => .ok values
  | .visit (number value) :: tasks, values => run tasks (value :: values)
  | .visit (binary op left right) :: tasks, values =>
    run (.visit left :: .visit right :: .combine op :: tasks) values
  | .combine op :: tasks, right :: left :: values =>
    match apply op left right with
    | .ok value => run tasks (value :: values)
    | .error fault => .error (.refused fault)
  | .combine _ :: _, _ => .error .missingValue
termination_by tasks => tasks.foldr (fun task rest => task.count + rest) 0
decreasing_by all_goals simp [Task.count, taskCount] <;> omega

/-- Visiting a tree puts its value on the stack, or stops at its first refusal. -/
theorem run_visit (tree : Expr) (tasks : List Task) (values : List Binary64) :
    run apply (.visit tree :: tasks) values =
      match tree.fold apply with
      | .ok value => run apply tasks (value :: values)
      | .error fault => .error (.refused fault) := by
  induction tree generalizing tasks values with
  | number value => rw [run, fold]
  | binary op left right ihLeft ihRight =>
    rw [run, ihLeft, fold]
    cases left.fold apply with
    | error fault => rfl
    | ok a =>
      dsimp only [bind, Except.bind]
      rw [ihRight]
      cases right.fold apply with
      | error fault => rfl
      | ok b =>
        dsimp only
        rw [run]

/-- Working through a tree leaves its value alone on the stack. -/
theorem run_singleton (tree : Expr) :
    run apply [.visit tree] [] =
      ((tree.fold apply).map fun value => [value]).mapError .refused := by
  rw [run_visit]
  cases tree.fold apply with
  | error fault => rfl
  | ok value =>
    dsimp only
    rw [run]
    rfl

/-- The value of a tree by working through its tasks, with the operations given. -/
def calculateWith (tree : Expr) : Except ValueFault Binary64 := do
  match ← run apply [.visit tree] [] with
  | value :: _ => .ok value
  | [] => .error .missingValue

/-- The value by working through the tasks is the value by recursion. -/
theorem calculateWith_eq (tree : Expr) :
    tree.calculateWith apply = (tree.fold apply).mapError .refused := by
  rw [calculateWith, run_singleton]
  cases tree.fold apply with
  | error fault => rfl
  | ok value => rfl

end Expr

/-- What an operator computes. -/
def Operator.apply : Operator → Binary64 → Binary64 → Except ArithmeticFault Binary64
  | add, a, b => .ok (a + b)
  | sub, a, b => .ok (a - b)
  | mul, a, b => .ok (a * b)
  | div, a, b => a.guardedDiv b
  | pow, a, b => a.guardedPower b

/-- The value of an expression. -/
def Expr.calculate (tree : Expr) : Except ValueFault Binary64 :=
  tree.calculateWith Operator.apply

end Reckon
