import Reckon.Proofs.Expr.Assembly

/-!
# The leaves of a tree

Assembly neither loses a number nor changes the order of numbers.  The expressions on the stack
of finished ones, read from the one that was finished first, have at their leaves exactly the
values of the numbers that have been read so far, one leaf for each and in the same order.
Completing a pending operator joins two neighbours on the stack and keeps this, and no other
token than a number changes the leaves.

So a leaf of the tree can be told by a place among the tokens: the leaf of a number stands behind
as many leaves as there are numbers before it.
-/

namespace Reckon

namespace Expr

/-- The values at the leaves of a tree, from the left. -/
def leaves : Expr → List Binary64
  | number value => [value]
  | binary _ left right => left.leaves ++ right.leaves

@[simp] theorem leaves_number (value : Binary64) : (number value).leaves = [value] := rfl

@[simp] theorem leaves_binary (op : Operator) (left right : Expr) :
    (binary op left right).leaves = left.leaves ++ right.leaves := rfl

end Expr

namespace Token

/-- The value of a token, if it is a number that has one. -/
def value? (token : Token) : Option Binary64 :=
  if token.kind = .number then Numeral.real? token.text else none

/-- The values of the numbers among tokens. -/
def values (tokens : List Token) : List Binary64 := tokens.filterMap value?

/-- How many numbers there are. -/
def numberCount (tokens : List Token) : Nat := tokens.countP fun token => token.kind = .number

@[simp] theorem values_append (front back : List Token) :
    values (front ++ back) = values front ++ values back := List.filterMap_append

theorem values_cons (token : Token) (rest : List Token) :
    values (token :: rest) = values [token] ++ values rest :=
  values_append [token] rest

theorem numberCount_cons (token : Token) (rest : List Token) :
    numberCount (token :: rest) = numberCount rest + if token.kind = .number then 1 else 0 := by
  simp [numberCount, List.countP_cons]

theorem values_singleton_of_number {n : Token} {value : Binary64} (number : n.kind = .number)
    (hvalue : Numeral.real? n.text = some value) : values [n] = [value] := by
  simp [values, value?, number, hvalue]

theorem values_singleton_of_ne_number {token : Token} (other : token.kind ≠ .number) :
    values [token] = [] := by
  simp [values, value?, other]

/-- Where all numbers have values, there are as many values as numbers. -/
theorem length_values {tokens : List Token} (h : Expr.NumbersHaveValues tokens) :
    (values tokens).length = numberCount tokens := by
  induction tokens with
  | nil => rfl
  | cons token rest ih =>
    have others : (values rest).length = numberCount rest :=
      ih fun other mem => h other (List.mem_cons_of_mem _ mem)
    rw [values_cons, List.length_append, others, numberCount_cons]
    by_cases number : token.kind = .number
    · obtain ⟨value, hvalue⟩ := h token (List.mem_cons_self ..) number
      rw [values_singleton_of_number number hvalue, if_pos number, Nat.add_comm]
      rfl
    · rw [values_singleton_of_ne_number number, if_neg number, Nat.add_comm]
      rfl

end Token

namespace Assembly

/-- The leaves of finished expressions, from the one that was finished first. -/
def leavesOf : List Expr → List Binary64
  | [] => []
  | tree :: below => leavesOf below ++ tree.leaves

@[simp] theorem leavesOf_nil : leavesOf [] = [] := rfl

@[simp] theorem leavesOf_cons (tree : Expr) (below : List Expr) :
    leavesOf (tree :: below) = leavesOf below ++ tree.leaves := rfl

/-! ## Completing keeps the leaves -/

theorem leavesOf_of_settles {least : Nat} {state next : Stacks} (h : Settles least state next) :
    leavesOf next.finished = leavesOf state.finished := by
  induction h with
  | refl => rfl
  | reduce _ _ ih =>
    rw [ih]
    simp only [leavesOf_cons, Expr.leaves_binary, List.append_assoc]

theorem leavesOf_of_closeGroup {pending : List Pending} {finished : List Expr} {state : Stacks}
    (h : closeGroup pending finished = .ok state) :
    leavesOf state.finished = leavesOf finished :=
  leavesOf_of_settles (settles_of_closeGroup h)

theorem leavesOf_of_completeAll {pending : List Pending} {finished completed : List Expr}
    (h : completeAll pending finished = .ok completed) :
    leavesOf completed = leavesOf finished :=
  leavesOf_of_settles (settles_of_completeAll h)

/-! ## Reading appends the values of numbers -/

theorem leavesOf_of_step {state next : Stacks} {before : Option TokenKind} {token : Token}
    (h : step state before token = .ok next) :
    leavesOf next.finished = leavesOf state.finished ++ Token.values [token] := by
  cases kind : token.kind with
  | number =>
    simp only [step, kind] at h
    split at h
    · next value hvalue =>
      cases Except.ok.inj h
      rw [Token.values_singleton_of_number kind hvalue]
      rfl
    · exact absurd h (by simp)
  | space =>
    simp only [step, kind] at h
    cases Except.ok.inj h
    rw [Token.values_singleton_of_ne_number (by simp [kind]), List.append_nil]
  | openParen =>
    simp only [step, kind] at h
    cases Except.ok.inj h
    rw [Token.values_singleton_of_ne_number (by simp [kind]), List.append_nil]
  | operator op =>
    simp only [step, kind] at h
    obtain ⟨middle, completed, pushed⟩ := exists_of_bind_eq_ok h
    have same : next.finished = middle.finished := by
      rw [← Except.ok.inj pushed]
    rw [Token.values_singleton_of_ne_number (by simp [kind]), List.append_nil, same]
    exact leavesOf_of_settles (settles_of_completeTighter completed)
  | closeParen =>
    simp only [step, kind] at h
    rw [Token.values_singleton_of_ne_number (by simp [kind]), List.append_nil]
    exact leavesOf_of_closeGroup h

/-- **The leaves on the stack are the numbers read.** -/
theorem leavesOf_of_run {state next : Stacks} {before : Option TokenKind} {tokens : List Token}
    (h : run state before tokens = .ok next) :
    leavesOf next.finished = leavesOf state.finished ++ Token.values tokens := by
  induction tokens generalizing state before with
  | nil =>
    cases Except.ok.inj h
    exact (List.append_nil _).symm
  | cons token rest ih =>
    obtain ⟨middle, stepped, ran⟩ := exists_of_bind_eq_ok h
    rw [ih ran, leavesOf_of_step stepped, Token.values_cons token rest, List.append_assoc]

end Assembly

end Reckon
