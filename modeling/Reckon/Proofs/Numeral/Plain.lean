import Mathlib.Data.List.TakeDrop
import Reckon.Numeral.Real

/-!
# Plain numerals

Of all that `Numeral.real?` reads, an expression can hold only the plainest sort: digits, and
perhaps a point with any digits behind it.  Such a text has no sign, no blanks, no underscores
and no exponent, it is none of the words for infinity or for what is not a number, and it has a
digit before the point.  So every step of the reading passes it on as it is, and it has a value
(`exists_real?_of_isPlain`).

The value is the datum nearest to a decimal, which the text writes with all of its digits and as
many places as stand behind the point (`Writes`, `real?_of_writes`).

The reading goes the same way where a sign stands before a plain numeral and an exponent behind it,
as in the texts that data are printed as.  The sign becomes that of the datum, and the exponent moves
the places of the decimal (`real?_of_writes_between`).
-/

namespace Reckon

namespace Numeral

/-- Digits, and perhaps a point with any digits behind it. -/
inductive IsPlain : List Char → Prop where
  | whole {digits : List Char} (some_digit : digits ≠ [])
      (hdigits : ∀ c ∈ digits, c.isDigit = true) : IsPlain digits
  | pointed {digits fraction : List Char} (some_digit : digits ≠ [])
      (hdigits : ∀ c ∈ digits, c.isDigit = true)
      (hfraction : ∀ c ∈ fraction, c.isDigit = true) : IsPlain (digits ++ '.' :: fraction)

/-- Whether a plain numeral writes a decimal: its digits in a row, with as many places as stand
behind the point. -/
inductive Writes : List Char → Decimal → Prop where
  | whole {digits : List Char} (some_digit : digits ≠ [])
      (hdigits : ∀ c ∈ digits, c.isDigit = true) : Writes digits ⟨value digits, 0⟩
  | pointed {digits fraction : List Char} (some_digit : digits ≠ [])
      (hdigits : ∀ c ∈ digits, c.isDigit = true)
      (hfraction : ∀ c ∈ fraction, c.isDigit = true) :
      Writes (digits ++ '.' :: fraction) ⟨value (digits ++ fraction), -fraction.length⟩

theorem Writes.isPlain {text : List Char} {d : Decimal} (h : Writes text d) : IsPlain text := by
  cases h with
  | whole some_digit hdigits => exact .whole some_digit hdigits
  | pointed some_digit hdigits hfraction => exact .pointed some_digit hdigits hfraction

theorem IsPlain.exists_writes {text : List Char} (h : IsPlain text) : ∃ d, Writes text d := by
  cases h with
  | whole some_digit hdigits => exact ⟨_, .whole some_digit hdigits⟩
  | pointed some_digit hdigits hfraction => exact ⟨_, .pointed some_digit hdigits hfraction⟩

/-! ## Characters -/

theorem toNat_of_isDigit {c : Char} (h : c.isDigit = true) : 48 ≤ c.toNat ∧ c.toNat ≤ 57 := by
  simp only [Char.isDigit, Bool.and_eq_true, decide_eq_true_eq, ge_iff_le,
    UInt32.le_iff_toNat_le] at h
  exact h

theorem IsPlain.mem {text : List Char} (h : IsPlain text) {c : Char} (mem : c ∈ text) :
    c.isDigit = true ∨ c = '.' := by
  cases h with
  | whole _ hdigits => exact .inl (hdigits c mem)
  | pointed _ hdigits hfraction =>
    rcases List.mem_append.1 mem with mem | mem
    · exact .inl (hdigits c mem)
    · rcases List.mem_cons.1 mem with rfl | mem
      · exact .inr rfl
      · exact .inl (hfraction c mem)

theorem IsPlain.head {text : List Char} (h : IsPlain text) :
    ∃ c rest, text = c :: rest ∧ c.isDigit = true := by
  cases h with
  | whole some_digit hdigits =>
    obtain ⟨c, rest, rfl⟩ := List.exists_cons_of_ne_nil some_digit
    exact ⟨c, rest, rfl, hdigits c (List.mem_cons_self ..)⟩
  | @pointed digits fraction some_digit hdigits _ =>
    obtain ⟨c, rest, rfl⟩ := List.exists_cons_of_ne_nil some_digit
    exact ⟨c, _, rfl, hdigits c (List.mem_cons_self ..)⟩

/-- Whether a text has no characters but those of the ASCII table that can be seen, and no
underscores. -/
def IsSolid (text : List Char) : Prop := ∀ c ∈ text, 0x20 < c.toNat ∧ c.toNat < 0x7F ∧ c ≠ '_'

theorem isSolid_append {front back : List Char} :
    IsSolid (front ++ back) ↔ IsSolid front ∧ IsSolid back := List.forall_mem_append

theorem isSolid_of_isDigit {digits : List Char} (h : ∀ c ∈ digits, c.isDigit = true) :
    IsSolid digits := by
  intro c mem
  have := toNat_of_isDigit (h c mem)
  refine ⟨by omega, by omega, ?_⟩
  rintro rfl
  exact absurd (h _ mem) (by decide)

theorem IsPlain.isSolid {text : List Char} (h : IsPlain text) : IsSolid text := by
  intro c mem
  rcases h.mem mem with digit | rfl
  · exact isSolid_of_isDigit (List.forall_mem_singleton.2 digit) c (List.mem_singleton_self c)
  · decide

/-! ## The steps of the reading -/

theorem plain_eq_self {c : Char} (h : c.toNat < 0x7F) : plain c = c := by
  rw [plain, if_pos h]

theorem not_isPlainBlank_of_toNat {c : Char} (h : 0x20 < c.toNat) : isPlainBlank c = false := by
  have ne {d : Char} (small : d.toNat ≤ 0x20) : (c == d) = false := by
    rw [beq_eq_false_iff_ne]
    rintro rfl
    omega
  simp only [isPlainBlank, ne (d := ' ') (by decide), ne (d := '\t') (by decide),
    ne (d := '\n') (by decide), ne (d := '\x0b') (by decide), ne (d := '\x0c') (by decide),
    ne (d := '\r') (by decide), Bool.or_self]

theorem trimBoth_eq_self {inClass : Char → Bool} {text : List Char}
    (h : ∀ c ∈ text, inClass c = false) : trimBoth inClass text = text := by
  have drop {part : List Char} (outside : ∀ c ∈ part, inClass c = false) :
      part.dropWhile inClass = part := by
    cases part with
    | nil => rfl
    | cons c rest => exact List.dropWhile_cons_of_neg (by simp [outside c (List.mem_cons_self ..)])
  rw [trimBoth, drop h, drop fun c mem => h c (List.mem_reverse.1 mem), List.reverse_reverse]

theorem core_eq_of_isSolid {text : String} (h : IsSolid text.toList) : core text = text.toList := by
  have ascii : ∀ c ∈ text.toList, plain c = c := fun c mem => plain_eq_self (h c mem).2.1
  have same : text.toList.map plain = text.toList :=
    (List.map_congr_left ascii).trans (List.map_id' _)
  rw [core, same]
  exact trimBoth_eq_self fun c mem => not_isPlainBlank_of_toNat (h c mem).1

theorem dropUnderscores_eq_some {text : List Char} (h : ∀ c ∈ text, c ≠ '_') (before : Char) :
    dropUnderscores before text = some text := by
  induction text generalizing before with
  | nil => rfl
  | cons c rest ih =>
    have others := ih fun d mem => h d (List.mem_cons_of_mem _ mem)
    have solid : c ≠ '_' := h c (List.mem_cons_self ..)
    rw [dropUnderscores, others]
    all_goals simp_all

/-- A solid text is read as it is, but for its sign. -/
theorem real?_of_isSolid {text : String} (h : IsSolid text.toList) :
    real? text = unsigned? (splitSign text.toList).1 (splitSign text.toList).2 := by
  have joined : dropUnderscores ' ' (core text) = some text.toList := by
    rw [core_eq_of_isSolid h]
    exact dropUnderscores_eq_some (fun c mem => (h c mem).2.2) ' '
  simp only [real?, joined, Option.bind_eq_bind, Option.bind_some]

theorem splitSign_of_isDigit {c : Char} (h : c.isDigit = true) (rest : List Char) :
    splitSign (c :: rest) = (false, c :: rest) := by
  unfold splitSign
  split
  · next same =>
    obtain ⟨rfl, -⟩ := List.cons.inj same
    exact absurd h (by decide)
  · next same =>
    obtain ⟨rfl, -⟩ := List.cons.inj same
    exact absurd h (by decide)
  · rfl

theorem span_of_isDigit {digits : List Char} (h : ∀ c ∈ digits, c.isDigit = true)
    (rest : List Char) (stop : ∀ c ∈ rest.head?, c.isDigit = false) :
    (digits ++ rest).span Char.isDigit = (digits, rest) := by
  have front : rest.takeWhile Char.isDigit = [] := by
    cases rest with
    | nil => rfl
    | cons c rest => exact List.takeWhile_cons_of_neg (by simp [stop c rfl])
  have back : rest.dropWhile Char.isDigit = rest := by
    cases rest with
    | nil => rfl
    | cons c rest => exact List.dropWhile_cons_of_neg (by simp [stop c rfl])
  rw [List.span_eq_takeWhile_dropWhile, List.takeWhile_append_of_pos h,
    List.dropWhile_append_of_pos h, front, back, List.append_nil]

theorem toLower_of_isDigit {c : Char} (h : c.isDigit = true) : c.toLower = c := by
  have := toNat_of_isDigit h
  refine dif_neg fun upper => ?_
  have : 'A'.val.toNat ≤ c.val.toNat := UInt32.le_iff_toNat_le.1 upper.1
  have : 'A'.val.toNat = 65 := rfl
  have : c.toNat = c.val.toNat := rfl
  omega

/-- A text that begins with a digit is no word that begins with a letter. -/
theorem ne_word_of_isDigit {c : Char} (h : c.isDigit = true) (rest : List Char) {word : String}
    {letter : Char} {letters : List Char} (spelled : word.toList = letter :: letters)
    (other : letter.isDigit = false) : String.ofList ((c :: rest).map Char.toLower) ≠ word := by
  intro same
  have first : c = letter := by
    rw [← same, String.toList_ofList, List.map_cons, toLower_of_isDigit h] at spelled
    exact (List.cons.inj spelled).1
  rw [first, other] at h
  exact absurd h (by simp)

/-! ## Exponents -/

/-- An exponent is nothing, or a letter with digits that may have a sign. -/
theorem exponent?_eq_some_cases {text : List Char} {scale : Int} (h : exponent? text = some scale) :
    text = [] ∨ ∃ c rest, text = c :: rest ∧ (c = 'e' ∨ c = 'E') ∧
      ∀ d ∈ (splitSign rest).2, d.isDigit = true := by
  cases text with
  | nil => exact .inl rfl
  | cons c rest =>
    rw [exponent?] at h
    split at h
    · next letter =>
      dsimp only at h
      split at h
      · next digits => exact .inr ⟨c, rest, rfl, letter, List.all_eq_true.1 digits.2⟩
      · exact absurd h (by simp)
    · exact absurd h (by simp)

theorem splitSign_cases (text : List Char) :
    text = (splitSign text).2 ∨ ∃ sign ∈ ['-', '+'], text = sign :: (splitSign text).2 := by
  unfold splitSign
  split
  · exact .inr ⟨'-', by simp, rfl⟩
  · exact .inr ⟨'+', by simp, rfl⟩
  · exact .inl rfl

theorem isSolid_of_exponent? {text : List Char} {scale : Int} (h : exponent? text = some scale) :
    IsSolid text := by
  have solid {c : Char} {rest : List Char} (hc : 0x20 < c.toNat ∧ c.toNat < 0x7F ∧ c ≠ '_')
      (hrest : IsSolid rest) : IsSolid (c :: rest) := List.forall_mem_cons.2 ⟨hc, hrest⟩
  rcases exponent?_eq_some_cases h with rfl | ⟨c, rest, rfl, letter, digits⟩
  · exact fun _ mem => absurd mem List.not_mem_nil
  · refine solid (by rcases letter with rfl | rfl <;> decide) ?_
    rcases splitSign_cases rest with unsigned | ⟨sign, mem, signed⟩
    · rw [unsigned]
      exact isSolid_of_isDigit digits
    · rw [signed]
      refine solid ?_ (isSolid_of_isDigit digits)
      rcases List.mem_cons.1 mem with rfl | mem
      · decide
      · cases List.mem_singleton.1 mem
        decide

/-- The digits of a numeral and its point end before an exponent. -/
theorem head?_of_exponent? {text : List Char} {scale : Int} (h : exponent? text = some scale) :
    ∀ c ∈ text.head?, c.isDigit = false ∧ c ≠ '.' := by
  rcases exponent?_eq_some_cases h with rfl | ⟨c, rest, rfl, letter, -⟩
  · exact fun c mem => absurd mem (by simp)
  · rintro d mem
    cases Option.some.inj mem
    rcases letter with rfl | rfl <;> decide

/-- A plain numeral with an exponent behind it. -/
theorem unsigned?_of_writes_append {text tail : List Char} {d : Decimal} {scale : Int}
    (h : Writes text d) (scaled : exponent? tail = some scale) (negative : Bool) :
    unsigned? negative (text ++ tail) =
      some (.ofDecimal negative d.coefficient (scale + d.exponent)) := by
  obtain ⟨c, rest, begins, digit⟩ := h.isPlain.head
  have infinite : ¬(String.ofList ((text ++ tail).map Char.toLower) = "inf" ∨
      String.ofList ((text ++ tail).map Char.toLower) = "infinity") := by
    rw [begins, not_or]
    exact ⟨ne_word_of_isDigit digit (rest ++ tail) rfl rfl,
      ne_word_of_isDigit digit (rest ++ tail) rfl rfl⟩
  have undefined : ¬String.ofList ((text ++ tail).map Char.toLower) = "nan" := by
    rw [begins]
    exact ne_word_of_isDigit digit (rest ++ tail) rfl rfl
  have stop := head?_of_exponent? scaled
  have digit_stop : ∀ c ∈ tail.head?, c.isDigit = false := fun c mem => (stop c mem).1
  rw [unsigned?]
  dsimp only
  rw [if_neg infinite, if_neg undefined]
  cases h with
  | whole some_digit hdigits =>
    have split := span_of_isDigit hdigits tail digit_stop
    have no_fraction : splitFraction tail = ([], tail) := by
      unfold splitFraction
      split
      · exact absurd rfl (stop '.' rfl).2
      · rfl
    simp only [split, no_fraction, some_digit, false_and, ↓reduceIte, scaled, Option.map_some,
      List.append_nil, List.length_nil, Int.natCast_zero, Int.sub_zero, Int.add_zero]
  | @pointed digits fraction some_digit hdigits hfraction =>
    have split := span_of_isDigit hdigits ('.' :: (fraction ++ tail)) (by simp)
    have behind := span_of_isDigit hfraction tail digit_stop
    rw [List.append_assoc, List.cons_append]
    simp only [split, splitFraction, behind, some_digit, false_and, ↓reduceIte, scaled,
      Option.map_some, Int.sub_eq_add_neg]

/-- The sign that a numeral begins with. -/
def signOf (negative : Bool) : List Char := if negative then ['-'] else []

theorem isSolid_of_writes_between {front tail : List Char} {d : Decimal} {scale : Int}
    (h : Writes front d) (scaled : exponent? tail = some scale) (negative : Bool) :
    IsSolid (signOf negative ++ (front ++ tail)) := by
  refine isSolid_append.2 ⟨?_, isSolid_append.2 ⟨h.isPlain.isSolid, isSolid_of_exponent? scaled⟩⟩
  cases negative <;> simp [IsSolid, signOf]

/-- **The value of a plain numeral between a sign and an exponent** is the datum with this sign that
is nearest to the decimal with its places moved. -/
theorem real?_of_writes_between {text : String} {front tail : List Char} {d : Decimal} {scale : Int}
    (h : Writes front d) (scaled : exponent? tail = some scale) (negative : Bool)
    (split : text.toList = signOf negative ++ (front ++ tail)) :
    real? text = some (.ofDecimal negative d.coefficient (scale + d.exponent)) := by
  obtain ⟨c, rest, begins, digit⟩ := h.isPlain.head
  have solid : IsSolid text.toList := by
    rw [split]
    exact isSolid_of_writes_between h scaled negative
  have signed : splitSign text.toList = (negative, front ++ tail) := by
    rw [split]
    cases negative with
    | true => rfl
    | false =>
      rw [begins]
      exact splitSign_of_isDigit digit (rest ++ tail)
  rw [real?_of_isSolid solid, signed]
  exact unsigned?_of_writes_append h scaled negative

/-- **The value of a plain numeral** is the datum nearest to the decimal that it writes. -/
theorem real?_of_writes {text : String} {d : Decimal} (h : Writes text.toList d) :
    real? text = some (.ofDecimal false d.coefficient d.exponent) := by
  have alone : text.toList = signOf false ++ (text.toList ++ []) := (List.append_nil _).symm
  rw [real?_of_writes_between h rfl false alone, Int.zero_add]

/-- A plain numeral has a value. -/
theorem exists_real?_of_isPlain {text : String} (h : IsPlain text.toList) :
    ∃ value, real? text = some value := by
  obtain ⟨d, writes⟩ := h.exists_writes
  exact ⟨_, real?_of_writes writes⟩

end Numeral

end Reckon
