import Reckon.Expr.Basic
import Reckon.Decimal.Shortest

/-!
# The outline of an expression

An outline has one row for every node, in the order root, left side, right side, indented
by two blanks for every level below the root.  A number is shown by the shortest text that
reads back, so the outline loses nothing but the difference between NaNs.

`outlineAt` is the outline by recursion; `outlineRows` goes through a list of trees with
their levels and collects the text, and can be run at any depth.
-/

namespace Reckon

namespace Expr

/-- The indentation at a level. -/
def indent (level : Nat) : String := String.ofList (List.replicate (2 * level) ' ')

/-- The row of a number. -/
def numberRow (level : Nat) (value : Binary64) : String :=
  indent level ++ "Number(" ++ value.toShortest ++ ")\n"

/-- The row of an operator. -/
def operatorRow (level : Nat) (op : Operator) : String := indent level ++ op.name ++ "\n"

/-- The outline of a tree whose root stands at a level. -/
def outlineAt (level : Nat) : Expr → String
  | number value => numberRow level value
  | binary op left right =>
    operatorRow level op ++ left.outlineAt (level + 1) ++ right.outlineAt (level + 1)

/-- The number of nodes of a tree. -/
def nodeCount : Expr → Nat
  | number _ => 1
  | binary _ left right => left.nodeCount + right.nodeCount + 1

/-- The outlines of trees at their levels, behind the text so far. -/
def outlineRows (text : String) : List (Expr × Nat) → String
  | [] => text
  | (number value, level) :: rest => outlineRows (text ++ numberRow level value) rest
  | (binary op left right, level) :: rest =>
    outlineRows (text ++ operatorRow level op) ((left, level + 1) :: (right, level + 1) :: rest)
termination_by trees => trees.foldr (fun tree rest => tree.1.nodeCount + rest) 0
decreasing_by all_goals simp [nodeCount] <;> omega

/-- The outline of a tree. -/
def outline (tree : Expr) : String := outlineRows "" [(tree, 0)]

/-- Going through the list writes the outline of its first tree first. -/
theorem outlineRows_cons (tree : Expr) (level : Nat) (text : String) (rest : List (Expr × Nat)) :
    outlineRows text ((tree, level) :: rest) =
      outlineRows (text ++ tree.outlineAt level) rest := by
  induction tree generalizing level text rest with
  | number value => rw [outlineRows, outlineAt]
  | binary op left right ihLeft ihRight =>
    rw [outlineRows, ihLeft, ihRight, outlineAt, String.append_assoc, String.append_assoc,
      String.append_assoc]

end Expr

end Reckon
