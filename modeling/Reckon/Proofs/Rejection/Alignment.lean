import Reckon.Proofs.Rejection.Rows

/-!
# What is shown of any rejection

The span of a rejection need not lie in its source.  It may begin past the end, end before it
begins, or be negative, and the number of the first line may be any whole number.  `print_outcome`
says what comes of each of them.

## The rows

There are five rows, with the arrow and the three bars of the gutter in one column, which depends on
the width of the printed number alone.  Under a fault with a place there is at least one mark, and the
first stands in the column whose number is printed, counted from one where the text of the line
begins.  There are never more marks than the span has characters, unless it has none; and where there
is more than one, none of them stands behind the end of the text.  A single mark may, and has to where
the text is shorter than the column (`exists_mark_of_hasPosition`).  A fault without a place is shown
at the last line, without a mark (`snippet_of_not_hasPosition`).

## The limits

Two things can be asked for that cannot be written: a number of too many digits, and more blanks in
front of a mark than a text can have.  Where the line and the column are is told by the line feeds
before the fault (`StandsAt`), so these tell as well whether a rejection is shown; nothing else keeps
it from being shown.  That the number is written first matters only where both are too large.

The limits are for rejections that a caller makes up.  The faults of a source lie in it, or have no
place, so that a source which is itself no longer than a text can be does not reach them
(`make_of_evaluate`, `print_of_evaluate`).
-/

namespace Reckon

namespace Snippet

/-- Whether a sign begins at a column of a row, and at none before it. -/
def BeginsAt (sign : String) (column : Nat) (row : String) : Prop :=
  sign.toList <+: row.toList.drop column ∧
    ∀ earlier < column, ¬sign.toList <+: row.toList.drop earlier

/-- A sign begins behind a text that its first character does not occur in. -/
theorem beginsAt_of_not_mem {sign row : String} {c : Char} {rest front behind : List Char}
    (spelled : sign.toList = c :: rest) (split : row.toList = front ++ (sign.toList ++ behind))
    (outside : c ∉ front) : BeginsAt sign front.length row := by
  rw [BeginsAt, split]
  constructor
  · rw [List.drop_left]
    exact List.prefix_append _ _
  · rintro earlier before ⟨more, same⟩
    rw [List.drop_append_of_le_length before.le, List.drop_eq_getElem_cons before, spelled] at same
    have head : c = front[earlier] := List.head_eq_of_cons_eq same
    exact outside (head ▸ List.getElem_mem before)

/-- A sign that does not begin with a blank, behind blanks. -/
theorem beginsAt_of_spaces {sign row : String} {c : Char} {rest : List Char} {width : Nat}
    (behind : List Char) (spelled : sign.toList = c :: rest) (solid : c ≠ ' ')
    (split : row.toList = List.replicate width ' ' ++ (sign.toList ++ behind)) :
    BeginsAt sign width row := by
  have begins := beginsAt_of_not_mem spelled split fun mem => solid (List.eq_of_mem_replicate mem)
  rwa [List.length_replicate] at begins

/-! ## The gutter -/

theorem beginsAt_placeRow (snippet : Snippet) (filename : String) :
    BeginsAt "-->" snippet.gutterWidth (snippet.placeRow filename) := by
  have row : ∃ behind, (snippet.placeRow filename).toList =
      List.replicate snippet.gutterWidth ' ' ++ ("-->".toList ++ behind) := by
    unfold placeRow
    cases snippet.mark with
    | none =>
      refine ⟨(" " ++ filename ++ ":" ++ snippet.numberText).toList, ?_⟩
      show (spaces _ ++ ("--> " ++ filename ++ ":" ++ snippet.numberText)).toList = _
      simp [toList_spaces]
    | some mark =>
      refine ⟨(" " ++ filename ++ ":" ++ snippet.numberText ++ ":" ++
        toString (mark.1 + 1)).toList, ?_⟩
      show (spaces _ ++ ("--> " ++ filename ++ ":" ++ snippet.numberText ++ ":" ++
        toString (mark.1 + 1))).toList = _
      simp [toList_spaces]
  obtain ⟨behind, split⟩ := row
  exact beginsAt_of_spaces (c := '-') behind rfl (by decide) split

theorem beginsAt_blankGutter (snippet : Snippet) :
    BeginsAt "|" snippet.gutterWidth snippet.blankGutter := by
  refine beginsAt_of_spaces (c := '|') [] rfl (by decide) ?_
  rw [blankGutter, String.toList_append, toList_spaces, List.append_nil]

theorem beginsAt_markRow (snippet : Snippet) :
    BeginsAt "|" snippet.gutterWidth snippet.markRow := by
  obtain ⟨behind, row⟩ : ∃ behind, snippet.markRow = snippet.blankGutter ++ behind :=
    ⟨_, String.append_assoc ..⟩
  refine beginsAt_of_spaces (c := '|') behind.toList rfl (by decide) ?_
  rw [row, blankGutter, String.append_assoc, String.toList_append, toList_spaces,
    String.toList_append]

/-- The bar of the line with the number stands where it does in the other rows. -/
theorem beginsAt_lineRow (snippet : Snippet) :
    BeginsAt "|" snippet.gutterWidth s!"{snippet.number} | {snippet.shown}" := by
  have outside : '|' ∉ snippet.numberText.toList ++ [' '] := by
    rw [List.mem_append, not_or]
    exact ⟨fun mem => absurd (isDigit_or_eq_of_mem_toString mem) (by decide), by decide⟩
  have split : (s!"{snippet.number} | {snippet.shown}").toList =
      (snippet.numberText.toList ++ [' ']) ++ ("|".toList ++ (" " ++ snippet.shown).toList) := by
    show (snippet.numberText ++ " | " ++ snippet.shown).toList = _
    simp
  have begins := beginsAt_of_not_mem (c := '|') rfl split outside
  rwa [List.length_append, String.length_toList] at begins

end Snippet

namespace Rejection

variable {rejection : Rejection} {filename : String}

/-! ## The marks -/

/-- A fault with a place is marked, wherever its span lies. -/
theorem exists_mark_of_hasPosition (placed : rejection.hasPosition = true) (first : Int) :
    ∃ length, (rejection.snippet first).mark = some ((rejection.snippet first).pad, length) ∧
      1 ≤ length ∧ (length : Int) ≤ max 1 (rejection.stop - rejection.start) ∧
      (1 < length →
        (rejection.snippet first).pad + length ≤ (rejection.snippet first).shown.length) := by
  unfold Snippet.pad snippet
  simp only [placed, ↓reduceIte]
  refine ⟨_, rfl, ?_, ?_, ?_⟩
  · omega
  · omega
  · rw [String.length_ofList, Option.map_some, Option.getD_some]
    omega

theorem linesOf_ne_nil (source : List Char) : linesOf source ≠ [] := by
  unfold linesOf
  split
  · exact List.cons_ne_nil _ _
  · next other => exact fun none => other none

/-- A fault without a place is shown at the last line. -/
theorem snippet_of_not_hasPosition (unplaced : rejection.hasPosition = false) (first : Int) :
    ∃ above last, linesOf rejection.source.toList = above ++ [last] ∧
      rejection.snippet first =
        ⟨rejection.message, first + above.length, String.ofList last.visible, none⟩ := by
  obtain ⟨above, last, lines⟩ : ∃ above last, linesOf rejection.source.toList = above ++ [last] :=
    ⟨_, _, (List.dropLast_append_getLast (linesOf_ne_nil _)).symm⟩
  have isLine : last.IsLine := isLine_of_mem_linesOf (lines ▸ List.mem_append_right _ (by simp))
  have shown : shownLine (above ++ [last]) above.length = last.visible := by
    simp [shownLine, trimBreak_full isLine]
  refine ⟨above, last, lines, ?_⟩
  unfold snippet
  simp [unplaced, lines, shown]

/-! ## Limits -/

/-- A number of too many digits is not written. -/
theorem print_of_not_isWritable {first : Int}
    (unwritable : Numeral.isWritable (rejection.snippet first).number = false) :
    rejection.print filename first = .error .tooManyDigits := by
  rw [print, Snippet.check, if_neg (Bool.eq_false_iff.1 unwritable)]
  rfl

/-- A mark that stands too far to the right is not written. -/
theorem print_of_textLimit_le {first : Int}
    (writable : Numeral.isWritable (rejection.snippet first).number = true)
    (wide : Snippet.textLimit ≤ (rejection.snippet first).pad) :
    rejection.print filename first = .error .tooWide := by
  rw [print, Snippet.check, if_pos writable, if_neg (Nat.not_lt.2 wide)]
  rfl

/-- Nothing else keeps a rejection from being shown. -/
theorem print_eq_format {first : Int}
    (writable : Numeral.isWritable (rejection.snippet first).number = true)
    (narrow : (rejection.snippet first).pad < Snippet.textLimit) :
    rejection.print filename first = .ok (rejection.format filename first) := by
  rw [print, Snippet.check, if_pos writable, if_pos narrow]
  rfl

end Rejection

/-! ## The main statement -/

/-- How a mark of a length under a line with a number is laid out, from a column on that is counted
from the beginning of the text that is shown.  The extent is that of the span. -/
structure Snippet.IsUnderlined (filename : String) (number : Int) (shown place marks : String)
    (extent : Int) (column length : Nat) : Prop where
  place : place = spaces ((toString number).length + 1) ++
    s!"--> {filename}:{number}:{column + 1}"
  some_mark : 1 ≤ length
  bounded : (length : Int) ≤ max 1 extent
  count : marks.toList.count '^' = length
  columns : ∀ offset, marks.toList[offset]? = some '^' ↔
    (s!"{number} | ").length + column ≤ offset ∧
      offset < (s!"{number} | ").length + column + length
  below : 1 < length → column + length ≤ shown.length

namespace Rejection

/-- Where a rejection stands.  The line of a fault with a place is counted by the line feeds before
it, and its column from behind the last of them, also past the end of the source.  A fault without a
place stands at the last line. -/
structure StandsAt (rejection : Rejection) (first number : Int) (column : Nat) : Prop where
  placed : 0 ≤ rejection.start → ∃ above before,
    rejection.source.toList.take rejection.start.toNat = above ++ before ∧
    (∀ c ∈ above.getLast?, c = '\n') ∧ '\n' ∉ before ∧
    number = first + above.count '\n' ∧ above.length + column = rejection.start
  unplaced : rejection.start < 0 → ∃ above last,
    linesOf rejection.source.toList = above ++ [last] ∧ number = first + above.length ∧ column = 0

/-- How the text of a rejection is laid out that stands at a number and in a column. -/
structure LaidOut (rejection : Rejection) (filename text : String) (number : Int) (column : Nat)
    (shown place gutter line marks : String) : Prop where
  rows : text.toList.splitOn '\n' =
    ["error: " ++ rejection.message, place, gutter, line, marks].map String.toList
  arrow : Snippet.BeginsAt "-->" ((toString number).length + 1) place
  bars : ∀ row ∈ [gutter, line, marks], Snippet.BeginsAt "|" ((toString number).length + 1) row
  line : line = s!"{number} | {shown}"
  placed : 0 ≤ rejection.start → ∃ length, Snippet.IsUnderlined filename number shown place marks
    (rejection.stop - rejection.start) column length
  unplaced : rejection.start < 0 → IsNoted filename number place marks ∧
    ∃ above last, linesOf rejection.source.toList = above ++ [last] ∧
      shown = String.ofList last.visible

/-- The number that is shown and the blanks in front of the mark are where the rejection stands. -/
theorem standsAt_snippet (rejection : Rejection) (first : Int) :
    rejection.StandsAt first (rejection.snippet first).number (rejection.snippet first).pad where
  placed := by
    intro placed
    have position : rejection.hasPosition = true := decide_eq_true placed
    have split := @List.rdropWhile_append_rtakeWhile _ (· != '\n')
      (rejection.source.toList.take rejection.start.toNat)
    have no_feed : '\n' ∉ (rejection.source.toList.take rejection.start.toNat).rtakeWhile
        (· != '\n') := fun mem => absurd (List.mem_rtakeWhile_imp mem) (by decide)
    refine ⟨_, _, split.symm, ?_, no_feed, ?_, ?_⟩
    · intro c mem
      obtain ⟨some_text, rfl⟩ := List.mem_getLast?_eq_getLast mem
      simpa using List.rdropWhile_last_not (· != '\n') _ some_text
    · unfold snippet
      simp only [position, ↓reduceIte]
      conv_lhs => rw [← split, List.count_append, List.count_eq_zero.2 no_feed, Nat.add_zero]
    · unfold Snippet.pad snippet
      simp only [position, ↓reduceIte, Option.map_some, Option.getD_some, afterLastFeed_eq]
      have whole := List.length_take_le rejection.start.toNat rejection.source.toList
      have parts := congrArg List.length split
      rw [List.length_append] at parts
      omega
  unplaced := by
    intro unplaced
    obtain ⟨above, last, lines, snippet⟩ :=
      snippet_of_not_hasPosition (decide_eq_false (Int.not_le.2 unplaced)) first
    refine ⟨above, last, lines, ?_, ?_⟩
    · rw [snippet]
    · rw [snippet]
      rfl

/-- The rows of a rejection are laid out where it stands. -/
theorem exists_laidOut (rejection : Rejection) {filename : String} (one_row : '\n' ∉ filename.toList)
    (first : Int) : ∃ shown place gutter line marks,
      rejection.LaidOut filename (rejection.format filename first) (rejection.snippet first).number
        (rejection.snippet first).pad shown place gutter line marks := by
  refine ⟨(rejection.snippet first).shown, (rejection.snippet first).placeRow filename,
    (rejection.snippet first).blankGutter, _, (rejection.snippet first).markRow, ?_,
    Snippet.beginsAt_placeRow _ filename, ?_, rfl, ?_, ?_⟩
  · rw [splitOn_format rejection one_row, Snippet.rows, message_snippet]
    rfl
  · simp only [List.forall_mem_cons]
    exact ⟨Snippet.beginsAt_blankGutter _, Snippet.beginsAt_lineRow _, Snippet.beginsAt_markRow _,
      fun _ mem => absurd mem List.not_mem_nil⟩
  · intro placed
    obtain ⟨length, mark, some_mark, bounded, below⟩ :=
      exists_mark_of_hasPosition (decide_eq_true placed) first
    refine ⟨length, ?_, some_mark, bounded, Snippet.count_markRow mark,
      fun _ => Snippet.getElem?_markRow_eq_some_iff mark, below⟩
    rw [Snippet.placeRow, mark]
    rfl
  · intro unplaced
    obtain ⟨above, last, lines, snippet⟩ :=
      snippet_of_not_hasPosition (decide_eq_false (Int.not_le.2 unplaced)) first
    have mark : (rejection.snippet first).mark = none := by
      rw [snippet]
    refine ⟨Snippet.isNoted mark filename, above, last, lines, ?_⟩
    rw [snippet]

/-- **What is shown of any rejection**, wherever its span lies and whatever the number of the first
line is.  If the number of its line has too many digits, or its column is as far to the right as no
text goes, there is nothing but the reason for that; otherwise it is laid out in five rows. -/
theorem print_outcome (rejection : Rejection) {filename : String} (one_row : '\n' ∉ filename.toList)
    (first : Int) :
    ∃ number column, rejection.StandsAt first number column ∧
      (Numeral.isWritable number = false →
        rejection.print filename first = .error .tooManyDigits) ∧
      (Numeral.isWritable number = true → Snippet.textLimit ≤ column →
        rejection.print filename first = .error .tooWide) ∧
      (Numeral.isWritable number = true → column < Snippet.textLimit →
        ∃ text shown place gutter line marks, rejection.print filename first = .ok text ∧
          rejection.LaidOut filename text number column shown place gutter line marks) := by
  refine ⟨_, _, rejection.standsAt_snippet first, print_of_not_isWritable, print_of_textLimit_le,
    fun writable narrow => ?_⟩
  obtain ⟨shown, place, gutter, line, marks, laidOut⟩ := rejection.exists_laidOut one_row first
  exact ⟨_, shown, place, gutter, line, marks, print_eq_format writable narrow, laidOut⟩

/-- A span that begins past the end and ends before it begins, under a negative number. -/
theorem print_outcome_reversed :
    '\n' ∉ "<expr>".toList ∧
    print ⟨.unbalanced, 7, 3, "1\n", none⟩ "<expr>" (-5) =
      .ok "error: unbalanced parentheses\n   --> <expr>:-4:6\n   |\n-4 | \n   |      ^" ∧
    ∃ number column, StandsAt ⟨.unbalanced, 7, 3, "1\n", none⟩ (-5) number column ∧
      Numeral.isWritable number = true ∧ column < Snippet.textLimit ∧
      ∃ shown place gutter line marks, LaidOut ⟨.unbalanced, 7, 3, "1\n", none⟩ "<expr>"
        "error: unbalanced parentheses\n   --> <expr>:-4:6\n   |\n-4 | \n   |      ^"
        number column shown place gutter line marks := by
  have one_row : '\n' ∉ "<expr>".toList := by decide
  have printed : print ⟨.unbalanced, 7, 3, "1\n", none⟩ "<expr>" (-5) =
      .ok "error: unbalanced parentheses\n   --> <expr>:-4:6\n   |\n-4 | \n   |      ^" := by
    decide +kernel
  obtain ⟨number, column, stands, unwritable, wide, laidOut⟩ :=
    print_outcome ⟨.unbalanced, 7, 3, "1\n", none⟩ one_row (-5)
  have writable : Numeral.isWritable number = true := by
    by_contra other
    exact absurd (printed.symm.trans (unwritable (Bool.eq_false_iff.2 other))) (by simp)
  have narrow : column < Snippet.textLimit := by
    by_contra other
    exact absurd (printed.symm.trans (wide writable (Nat.not_lt.1 other))) (by simp)
  obtain ⟨text, shown, place, gutter, line, marks, printed', rows⟩ := laidOut writable narrow
  cases printed.symm.trans printed'
  exact ⟨one_row, printed, number, column, stands, writable, narrow, shown, place, gutter, line,
    marks, rows⟩

/-- **Not every rejection is shown.**  On the second line of a source whose first line has the largest
number that can be written, the number has a digit too many.  Behind as many columns as a text can
have blanks there is no room for a mark. -/
theorem not_forall_exists_laidOut :
    print ⟨.unbalanced, 1, 2, "\n)", none⟩ "<expr>" (Nat.pow 10 Numeral.digitLimit - 1 : Nat) =
      .error .tooManyDigits ∧
    print ⟨.unbalanced, Snippet.textLimit, Snippet.textLimit + 1, ")", none⟩ "<expr>" 1 =
      .error .tooWide ∧
    ¬∀ (rejection : Rejection) (filename : String) (first : Int), '\n' ∉ filename.toList →
      ∃ text number column shown place gutter line marks, rejection.print filename first = .ok text ∧
        rejection.LaidOut filename text number column shown place gutter line marks := by
  have tooWide : print ⟨.unbalanced, Snippet.textLimit, Snippet.textLimit + 1, ")", none⟩ "<expr>" 1 =
      .error .tooWide := by
    refine print_of_textLimit_le ?_ ?_
    · decide +kernel
    · decide +kernel
  refine ⟨print_of_not_isWritable ?_, tooWide, fun claimed => ?_⟩
  · decide +kernel
  · obtain ⟨text, number, column, shown, place, gutter, line, marks, printed, -⟩ :=
      claimed ⟨.unbalanced, Snippet.textLimit, Snippet.textLimit + 1, ")", none⟩ "<expr>" 1 (by decide)
    exact absurd (tooWide.symm.trans printed) (by simp)

/-! ## Rejections of sources -/

variable {rejection : Rejection} {source : String} {cause : Cause}

/-- A number of the size of a text is written with a few digits. -/
theorem isWritable_of_natAbs_lt {n : Int} (near : n.natAbs < Snippet.textLimit * 2) :
    Numeral.isWritable n = true := by
  have few : Snippet.textLimit * 2 ≤ Nat.pow 10 20 := by decide
  -- stated for any limit, so that the power of the real one is never computed
  have more {digits : Nat} (enough : 20 ≤ digits) : Nat.pow 10 20 ≤ Nat.pow 10 digits :=
    Nat.pow_le_pow_right (by decide) enough
  exact decide_eq_true (near.trans_le (few.trans (more (by decide))))

theorem length_linesOf_le (source : List Char) : (linesOf source).length ≤ source.length + 1 := by
  have lines := Line.length_ofText_le source
  unfold linesOf
  split
  · exact Nat.le_add_left _ _
  · omega

/-- A fault of a source stands no further down and no further to the right than the source goes. -/
theorem StandsAt.within {first number : Int} {column : Nat}
    (h : rejection.StandsAt first number column)
    (inside : rejection.start ≤ rejection.source.length) :
    first ≤ number ∧ number ≤ first + rejection.source.length ∧
      column ≤ rejection.source.length := by
  rcases Int.lt_or_le rejection.start 0 with unplaced | placed
  · obtain ⟨above, last, lines, number_eq, column_eq⟩ := h.unplaced unplaced
    have count := length_linesOf_le rejection.source.toList
    rw [lines, List.length_append, List.length_singleton, String.length_toList] at count
    omega
  · obtain ⟨above, before, -, -, -, number_eq, column_eq⟩ := h.placed placed
    have feeds : above.count '\n' ≤ above.length := List.count_le_length
    omega

/-- A rejection of a source is made. -/
theorem make_of_evaluate (rejected : evaluate source = .error (.rejected rejection cause))
    (short : source.length < Snippet.textLimit) :
    make rejection.reason rejection.start rejection.stop source rejection.symbol =
      .ok rejection := by
  obtain ⟨rfl, -, -⟩ := evaluate_rejected_place rejected
  have place := Rejects.start_stop (evaluate_eq_rejected_iff.1 rejected)
  have start : Numeral.isWritable rejection.start = true := isWritable_of_natAbs_lt (by omega)
  have stop : Numeral.isWritable rejection.stop = true := isWritable_of_natAbs_lt (by omega)
  rw [make, start, stop]
  rfl

/-- **A rejection of a source is shown**, whatever the number of its first line is that a line of a
text can have. -/
theorem print_of_evaluate (rejected : evaluate source = .error (.rejected rejection cause))
    (short : source.length < Snippet.textLimit) {first : Int}
    (near : first.natAbs ≤ Snippet.textLimit) (filename : String) :
    rejection.print filename first = .ok (rejection.format filename first) := by
  obtain ⟨rfl, -, -⟩ := evaluate_rejected_place rejected
  have place := Rejects.start_stop (evaluate_eq_rejected_iff.1 rejected)
  obtain ⟨below, above, column⟩ := (rejection.standsAt_snippet first).within (by omega)
  refine print_eq_format (isWritable_of_natAbs_lt ?_) (column.trans_lt short)
  omega

end Rejection

end Reckon
