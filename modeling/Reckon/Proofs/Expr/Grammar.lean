import Reckon.Expr.Basic
import Reckon.Numeral.Real
import Reckon.Proofs.Arrangement.Grammar

/-!
# The tree that an expression stands for

`Arrangement.Derives` says which tokens are in order, with all operators alike.  What they
mean depends on how tightly the operators bind, and that is a second grammar,

    sum := product (('+' | '-') product)*
    product := chain (('*' | '/') chain)*
    chain := item ('^' item)*
    item := number | '(' sum ')' | number '(' sum ')'

in which every phrase comes with its tree.  Sums and products group from the left.

## Chains of powers

So do powers, until a number stands before a group.  `2 ^ 3(4) ^ 5` is `2 ^ (3 * (4 ^ 5))`:
the product of the number and the group binds more tightly than what stands before it and more
loosely than what follows, so it takes in the whole rest of the chain, and then becomes the
right side of what has been folded so far.  `chainFrom` is this rule.

## Reading

`Reads` gives the phrase that tokens make up.  Every expression in the sense of `Derives` whose
numbers have values can be read as a sum (`exists_reads_of_derives`): each further operand finds
its place at the end of the last product or the last chain.
-/

namespace Reckon

namespace Expr

/-- A link of a chain of powers: a number or a group on its own, or a number with the group that
it multiplies. -/
inductive Item where
  | plain (tree : Expr)
  | multiple (factor group : Expr)

/-- The tree of a chain whose links so far have been folded into `left`. -/
def chainFrom (left : Expr) : List Item → Expr
  | [] => left
  | .plain right :: rest => chainFrom (.binary .pow left right) rest
  | .multiple factor group :: rest =>
    .binary .pow left (.binary .mul factor (chainFrom group rest))

/-- The tree of a chain with a first link and the other ones. -/
def chainTree : Item → List Item → Expr
  | .plain first, rest => chainFrom first rest
  | .multiple factor group, rest => .binary .mul factor (chainFrom group rest)

example (two three four five : Expr) :
    chainTree (.plain two) [.multiple three four, .plain five] =
      .binary .pow two (.binary .mul three (.binary .pow four five)) := rfl

/-- What tokens make up, with its tree.  Of a chain the links are kept apart. -/
inductive Phrase where
  | item (item : Item)
  | chain (first : Item) (rest : List Item)
  | product (tree : Expr)
  | sum (tree : Expr)

/-- The phrases that tokens make up. -/
inductive Reads : List Token → Phrase → Prop where
  | number {n : Token} {value : Binary64} (hn : n.kind = .number)
      (hvalue : Numeral.real? n.text = some value) :
      Reads [n] (.item (.plain (.number value)))
  | group {l r : Token} {inner : List Token} {tree : Expr} (hl : l.kind = .openParen)
      (hinner : Reads inner (.sum tree)) (hr : r.kind = .closeParen) :
      Reads (l :: (inner ++ [r])) (.item (.plain tree))
  | multiple {n l r : Token} {inner : List Token} {value : Binary64} {tree : Expr}
      (hn : n.kind = .number) (hvalue : Numeral.real? n.text = some value)
      (hl : l.kind = .openParen) (hinner : Reads inner (.sum tree)) (hr : r.kind = .closeParen) :
      Reads (n :: l :: (inner ++ [r])) (.item (.multiple (.number value) tree))
  | link {only : List Token} {first : Item} (honly : Reads only (.item first)) :
      Reads only (.chain first [])
  | power {front back : List Token} {o : Token} {first second : Item} {rest : List Item}
      (hfront : Reads front (.item first)) (ho : o.kind = .operator .pow)
      (hback : Reads back (.chain second rest)) :
      Reads (front ++ o :: back) (.chain first (second :: rest))
  | chain {only : List Token} {first : Item} {rest : List Item}
      (honly : Reads only (.chain first rest)) : Reads only (.product (chainTree first rest))
  | times {front back : List Token} {o : Token} {op : Operator} {left : Expr} {first : Item}
      {rest : List Item} (hfront : Reads front (.product left)) (ho : o.kind = .operator op)
      (hop : op = .mul ∨ op = .div) (hback : Reads back (.chain first rest)) :
      Reads (front ++ o :: back) (.product (.binary op left (chainTree first rest)))
  | product {only : List Token} {tree : Expr} (honly : Reads only (.product tree)) :
      Reads only (.sum tree)
  | plus {front back : List Token} {o : Token} {op : Operator} {left right : Expr}
      (hfront : Reads front (.sum left)) (ho : o.kind = .operator op)
      (hop : op = .add ∨ op = .sub) (hback : Reads back (.product right)) :
      Reads (front ++ o :: back) (.sum (.binary op left right))

/-! ## One more operand -/

/-- A chain goes on with one more link. -/
theorem Reads.chain_append {front back : List Token} {o : Token} {first last : Item}
    {rest : List Item} (h : Reads front (.chain first rest)) (ho : o.kind = .operator .pow)
    (hback : Reads back (.item last)) :
    Reads (front ++ o :: back) (.chain first (rest ++ [last])) := by
  match h with
  | .link honly => exact .power honly ho (.link hback)
  | .power hfirst ho' hrest =>
    rw [List.append_assoc, List.cons_append]
    exact .power hfirst ho' (hrest.chain_append ho hback)

/-- A product goes on with a link at the end of its last chain. -/
theorem Reads.exists_product_power {front back : List Token} {o : Token} {left : Expr}
    {last : Item} (h : Reads front (.product left)) (ho : o.kind = .operator .pow)
    (hback : Reads back (.item last)) :
    ∃ tree, Reads (front ++ o :: back) (.product tree) := by
  cases h with
  | chain honly => exact ⟨_, .chain (honly.chain_append ho hback)⟩
  | times hfront ho' hop hlast =>
    rw [List.append_assoc, List.cons_append]
    exact ⟨_, .times hfront ho' hop (hlast.chain_append ho hback)⟩

/-- A sum goes on at the end of its last product. -/
theorem Reads.exists_sum_of_product {front back : List Token} {o : Token} {left : Expr}
    (h : Reads front (.sum left))
    (extend : ∀ {last : List Token} {tree : Expr}, Reads last (.product tree) →
      ∃ longer, Reads (last ++ o :: back) (.product longer)) :
    ∃ tree, Reads (front ++ o :: back) (.sum tree) := by
  cases h with
  | product honly =>
    obtain ⟨longer, hlonger⟩ := extend honly
    exact ⟨longer, .product hlonger⟩
  | plus hfront ho hop hlast =>
    obtain ⟨longer, hlonger⟩ := extend hlast
    rw [List.append_assoc, List.cons_append]
    exact ⟨_, .plus hfront ho hop hlonger⟩

/-- A sum goes on with any operator and one more operand. -/
theorem Reads.exists_sum_append {front back : List Token} {o : Token} {op : Operator}
    {left : Expr} {last : Item} (h : Reads front (.sum left)) (ho : o.kind = .operator op)
    (hback : Reads back (.item last)) : ∃ tree, Reads (front ++ o :: back) (.sum tree) := by
  cases op with
  | add => exact ⟨_, .plus h ho (.inl rfl) (.chain (.link hback))⟩
  | sub => exact ⟨_, .plus h ho (.inr rfl) (.chain (.link hback))⟩
  | mul => exact h.exists_sum_of_product fun hlast => ⟨_, .times hlast ho (.inl rfl) (.link hback)⟩
  | div => exact h.exists_sum_of_product fun hlast => ⟨_, .times hlast ho (.inr rfl) (.link hback)⟩
  | pow => exact h.exists_sum_of_product fun hlast => hlast.exists_product_power ho hback

/-! ## Every expression can be read -/

/-- Whether every number among tokens has a value. -/
def NumbersHaveValues (tokens : List Token) : Prop :=
  ∀ token ∈ tokens, token.kind = .number → ∃ value, Numeral.real? token.text = some value

/-- What is to be read for a category: an item for an operand, and a sum for an expression. -/
def CanBeRead (tokens : List Token) : Arrangement.Category → Prop
  | .operand => ∃ item, Reads tokens (.item item)
  | .expression => ∃ tree, Reads tokens (.sum tree)

/-- **Every expression whose numbers have values has a tree.** -/
theorem exists_reads_of_derives {category : Arrangement.Category} {tokens : List Token}
    (h : Arrangement.Derives category tokens) (values : NumbersHaveValues tokens) :
    CanBeRead tokens category := by
  induction h with
  | number hn =>
    obtain ⟨value, hvalue⟩ := values _ (List.mem_singleton_self _) hn
    exact ⟨_, .number hn hvalue⟩
  | group hl _ hr ih =>
    obtain ⟨tree, hinner⟩ := ih fun token mem =>
      values token (List.mem_cons_of_mem _ (List.mem_append_left _ mem))
    exact ⟨_, .group hl hinner hr⟩
  | multiple hn hl _ hr ih =>
    obtain ⟨value, hvalue⟩ := values _ (List.mem_cons_self ..) hn
    obtain ⟨tree, hinner⟩ := ih fun token mem =>
      values token (List.mem_cons_of_mem _ (List.mem_cons_of_mem _ (List.mem_append_left _ mem)))
    exact ⟨_, .multiple hn hvalue hl hinner hr⟩
  | operand _ ih =>
    obtain ⟨item, hitem⟩ := ih values
    exact ⟨_, .product (.chain (.link hitem))⟩
  | joined _ ho _ ihFront ihBack =>
    obtain ⟨left, hleft⟩ := ihFront fun token mem => values token (List.mem_append_left _ mem)
    obtain ⟨last, hlast⟩ := ihBack fun token mem =>
      values token (List.mem_append_right _ (List.mem_cons_of_mem _ mem))
    obtain ⟨op, hop⟩ := Token.isOperator_eq_true_iff.1 ho
    exact hleft.exists_sum_append hop hlast

end Expr

end Reckon
