import Reckon.Proofs.Decimal.Layout
import Reckon.Proofs.Decimal.Significant
import Reckon.Proofs.Evaluation
import Reckon.Proofs.Rejection.Place

/-!
# A displayed result can be fed back

A result that is displayed with seventeen digits or more, and without an exponent, is an expression
for itself: it is read as one number, and evaluates to the datum that was displayed
(`Binary64.evaluate_display`).  The datum is a zero or a positive magnitude, since an expression has
no sign for its numbers.  Nor has it an exponent, and so a text with one is rejected.

## Two steps

Seventeen digits are enough to tell a magnitude from its neighbours, which is
`Decimal.isNearest_significant`, and nothing is lost between the decimal and the text, which is
`Layout.exists_writes_render`.
-/

namespace Reckon

/-! ## Reading back -/

/-- A plain numeral is read as one number, and evaluates to its value. -/
theorem evaluate_of_isPlain {text : String} {value : Binary64}
    (plain : Numeral.IsPlain text.toList) (read : Numeral.real? text = some value) :
    tokenize arithmeticRules text = .ok [⟨.number, text⟩] ∧ evaluate text = .ok value := by
  have lexeme : Token.IsLexeme ⟨.number, text⟩ := plain
  have lexed : tokenize arithmeticRules text = .ok [⟨.number, text⟩] :=
    tokenize_arithmeticRules_eq_ok_iff.2
      ⟨⟨List.forall_mem_singleton.2 lexeme, by simp⟩, by simp [Token.join]⟩
  have item : Expr.Reads [⟨.number, text⟩] (.item (.plain (.number value))) := .number rfl read
  have reads : Expr.Reads [⟨.number, text⟩] (.sum (.number value)) := .product (.chain (.link item))
  have assembled : Expr.ofTokens [⟨.number, text⟩] = .ok (.number value) :=
    Assembly.ofTokens_of_reads reads
  have ordered : Arrangement.check [⟨.number, text⟩] = .ok () := rfl
  have calculated : (Expr.number value).calculate = .ok value := by
    rw [Expr.calculate, Expr.calculateWith_eq]
    rfl
  refine ⟨lexed, ?_⟩
  rw [evaluate, Calculator.eval, Calculator.parse_of_tokenize lexed, assembled, ordered]
  simp only [bind, Except.bind, Except.mapError, calculated]

namespace Binary64

/-- A precision that is neither negative nor too big is a number of digits to show. -/
theorem display_eq_ok {x : Binary64} {precision : Int} (some_digits : 0 ≤ precision)
    (small : precision < 0x80000000) :
    display x precision = .ok (toSignificant (max 1 precision.toNat) x) := by
  rw [display, significantDigits, if_neg (by omega), if_neg (by omega), if_neg (by omega)]
  rfl

/-- A text in some precision has at least as many digits to show. -/
theorem exists_count_of_display {x : Binary64} {precision : Int} {text : String}
    (h : display x precision = .ok text) :
    ∃ count : Nat, precision ≤ count ∧ text = toSignificant count x := by
  rw [display, significantDigits] at h
  split at h
  · cases h
  · split at h
    · cases h
    · split at h
      · cases h
      · exact ⟨_, by omega, (Except.ok.inj h).symm⟩

/-- A text without an exponent reads back. -/
theorem evaluate_toSignificant {rank : Fin infinityRank} {count : Nat} (enough : 17 ≤ count)
    (no_exponent : 'e' ∉ (toSignificant count (finite false rank)).toList) :
    tokenize arithmeticRules (toSignificant count (finite false rank)) =
        .ok [⟨.number, toSignificant count (finite false rank)⟩] ∧
      evaluate (toSignificant count (finite false rank)) = .ok (finite false rank) := by
  have laid_out : toSignificant count (finite false rank) =
      Layout.render ⟨count, ""⟩
        (if rank.val = 0 then ⟨0, 0⟩ else Decimal.significant rank count) := rfl
  rw [laid_out] at no_exponent ⊢
  obtain ⟨d, writes, same⟩ := Layout.exists_writes_render (.inl rfl) no_exponent
  refine evaluate_of_isPlain writes.isPlain ?_
  have nearest : IsNearest rank d.value := by
    rw [same]
    split
    · next none =>
      rw [none, Decimal.value_eq_zero_of_coefficient rfl]
      exact isNearest_zero
    · next positive => exact Decimal.isNearest_significant enough positive
  rw [Numeral.real?_of_writes writes, Decimal.ofDecimal_eq false rank.isLt nearest]

/-- **A displayed result reads back.**  In a precision of seventeen or more, a zero without a sign or
a positive magnitude has a text, if the precision is not too big.  The text is one number for the
lexer, unless it has an exponent, and evaluates to the datum itself; with an exponent it is
rejected. -/
theorem evaluate_display {rank : Fin infinityRank} {precision : Int} (enough : 17 ≤ precision) :
    (precision < 0x80000000 → ∃ text, display (finite false rank) precision = .ok text) ∧
      ∀ text, display (finite false rank) precision = .ok text →
        ('e' ∉ text.toList →
          tokenize arithmeticRules text = .ok [⟨.number, text⟩] ∧
            evaluate text = .ok (finite false rank)) ∧
        ('e' ∈ text.toList →
          ∃ rejection cause, evaluate text = .error (.rejected rejection cause)) := by
  constructor
  · intro small
    exact ⟨_, display_eq_ok (by omega) small⟩
  · intro text displayed
    obtain ⟨count, shown, rfl⟩ := exists_count_of_display displayed
    refine ⟨evaluate_toSignificant (by omega), fun exponent => ?_⟩
    obtain ⟨rejection, cause, rejected, _⟩ := exists_rejected_of_mem exponent rfl (by decide)
    exact ⟨rejection, cause, rejected⟩

/-- A tenth is displayed with all of the seventeen digits. -/
theorem evaluate_display_tenth :
    display (finite false ⟨4591870180066957722, by decide⟩) 17 = .ok "0.10000000000000001" ∧
      tokenize arithmeticRules "0.10000000000000001" = .ok [⟨.number, "0.10000000000000001"⟩] ∧
      evaluate "0.10000000000000001" = .ok (finite false ⟨4591870180066957722, by decide⟩) := by
  have shown : toSignificant 17 (finite false ⟨4591870180066957722, by decide⟩) =
      "0.10000000000000001" := by decide +kernel
  have displayed : display (finite false ⟨4591870180066957722, by decide⟩) 17 =
      .ok "0.10000000000000001" := by
    rw [display, ← shown]
    rfl
  have reads_back := (evaluate_display (by decide)).2 _ displayed
  exact ⟨displayed, reads_back.1 (by decide)⟩

end Binary64

end Reckon
