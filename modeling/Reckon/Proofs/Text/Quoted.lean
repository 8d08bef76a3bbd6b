import Mathlib.Tactic.SplitIfs
import Reckon.Text.Line
import Reckon.Text.Quoted

/-!
# Quoted texts have no line breaks

Whatever text is put in quotes, what comes out stands on one line.  Line breaks are not printable
(`isPrintable_of_isLineBreak`), so each of them is escaped; and escapes are spelled with backslashes,
letters and digits only.
-/

namespace Reckon

/-- A character of one of the ranges is not printable. -/
theorem isPrintable_of_range {c : Char} {range : Nat × Nat} {index : Nat}
    (here : unprintableRanges[index]? = some range) (large : 0x7F ≤ c.toNat)
    (within : range.1 ≤ c.toNat ∧ c.toNat ≤ range.2) : isPrintable c = false := by
  obtain ⟨inside, same⟩ := Array.getElem?_eq_some_iff.1 here
  rw [isPrintable, if_neg (Nat.not_lt.2 large), Bool.not_eq_false', Array.any_eq_true]
  exact ⟨index, inside, by rw [same]; simpa using within⟩

/-- A line break is not printable. -/
theorem isPrintable_of_isLineBreak {c : Char} (h : isLineBreak c = true) : isPrintable c = false := by
  -- looking a range up is cheaper than going through all of them
  have controls : unprintableRanges[1]? = some (0x007F, 0x00A0) := by decide +kernel
  have separators : unprintableRanges[246]? = some (0x2028, 0x202F) := by decide +kernel
  simp only [isLineBreak, Bool.or_eq_true, beq_iff_eq] at h
  rcases h with ((((((((rfl | rfl) | rfl) | rfl) | rfl) | rfl) | rfl) | rfl) | rfl) | rfl
  · rfl
  · rfl
  · rfl
  · rfl
  · rfl
  · rfl
  · rfl
  · exact isPrintable_of_range controls (by decide) (by decide)
  · exact isPrintable_of_range separators (by decide) (by decide)
  · exact isPrintable_of_range separators (by decide) (by decide)

/-- No digit in any base breaks a line. -/
theorem unbroken_digitChar (n : Nat) : isLineBreak n.digitChar = false := by
  rw [Bool.eq_false_iff]
  intro h
  simp only [isLineBreak, Bool.or_eq_true, beq_iff_eq] at h
  rcases h with ((((((((h | h) | h) | h) | h) | h) | h) | h) | h) | h
  all_goals exact Nat.digitChar_ne _ rfl h

theorem unbroken_toDigits {base : Nat} (large : 1 < base) (n : Nat) :
    ∀ c ∈ Nat.toDigits base n, isLineBreak c = false := by
  induction n using Nat.strongRecOn with
  | ind n ih =>
    rw [Nat.toDigits_eq_if large]
    split
    · exact List.forall_mem_singleton.2 (unbroken_digitChar n)
    · next other =>
      have smaller : n / base < n := Nat.div_lt_self (by omega) large
      exact List.forall_mem_append.2
        ⟨ih _ smaller, List.forall_mem_singleton.2 (unbroken_digitChar _)⟩

namespace Quoted

theorem unbroken_hex (width n : Nat) : ∀ c ∈ hex width n, isLineBreak c = false := by
  refine List.forall_mem_append.2 ⟨fun c zero => ?_, unbroken_toDigits (by decide) n⟩
  rw [List.eq_of_mem_replicate zero]
  rfl

theorem unbroken_quoteFor (text : List Char) : isLineBreak (quoteFor text) = false := by
  unfold quoteFor
  split <;> rfl

/-- A line break is escaped, and no other character is escaped with one. -/
theorem unbroken_escape {quote : Char} (unbroken : isLineBreak quote = false) (c : Char) :
    ∀ d ∈ escape quote c, isLineBreak d = false := by
  unfold escape
  split_ifs with own feed carriage tab printable
  · have stays : isLineBreak c = false := by
      rcases Bool.or_eq_true_iff.1 own with same | same
      · rw [of_decide_eq_true same]
        exact unbroken
      · rw [of_decide_eq_true same]
        rfl
    exact List.forall_mem_cons.2 ⟨rfl, List.forall_mem_singleton.2 stays⟩
  · simp [isLineBreak]
  · simp [isLineBreak]
  · simp [isLineBreak]
  · refine List.forall_mem_singleton.2 ?_
    rw [Bool.eq_false_iff]
    intro breaks
    rw [isPrintable_of_isLineBreak breaks] at printable
    cases printable
  all_goals
    exact List.forall_mem_cons.2 ⟨rfl, List.forall_mem_cons.2 ⟨rfl, unbroken_hex _ _⟩⟩

end Quoted

/-- **A quoted text stands on one line.** -/
theorem unbroken_quoted (text : String) : ∀ c ∈ (quoted text).toList, isLineBreak c = false := by
  have quote := Quoted.unbroken_quoteFor text.toList
  rw [quoted, String.toList_ofList, Quoted.encode]
  refine List.forall_mem_cons.2
    ⟨quote, List.forall_mem_append.2 ⟨fun d mem => ?_, List.forall_mem_singleton.2 quote⟩⟩
  obtain ⟨c, _, inside⟩ := List.mem_flatMap.1 mem
  exact Quoted.unbroken_escape quote c d inside

end Reckon
