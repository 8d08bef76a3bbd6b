import Reckon.Proofs.LineResults
import Reckon.Proofs.Rejection.Snippet
import Reckon.Proofs.Text.Quoted

/-!
# The rows for a line of a document

A rejection is shown as five rows, joined by line feeds.  No row has a line feed of its own, so the
text that is shown falls into these rows again (`splitOn_format`).  The message has none because a
symbol is quoted in it, and the row with the line has none because a line feed ends a line.

`Rejection.snippet` looks for the line of the fault in the source, for the column of the fault on
this line, and cuts the mark off at the end of the line.  A line of a document is a source that
nothing breaks.  Then there is one line to be found, the column is the offset, and there is nothing
to cut off (`Exposes.snippet_of_unbroken`, `snippet_of_unplaced`).

So a failing line of a document is shown under its own number and with its own text
(`exists_rowsAt_of_evaluateLines`).  Where the fault has a span, the marks are below the characters
of the span and nowhere else, whatever the width of the number (`Span.IsMarked`); where it has none,
there is a note in their place (`IsNoted`).
-/

namespace Reckon

/-! ## Texts without line feeds -/

theorem feed_not_mem_append {a b : String} (left : '\n' ∉ a.toList) (right : '\n' ∉ b.toList) :
    '\n' ∉ (a ++ b).toList := by
  rw [String.toList_append, List.mem_append, not_or]
  exact ⟨left, right⟩

theorem feed_not_mem_of_unbroken {text : List Char} (h : ∀ c ∈ text, isLineBreak c = false) :
    '\n' ∉ text := by
  intro mem
  exact absurd (h _ mem) (by decide)

/-- A whole number is written with digits, and with a sign where it is negative. -/
theorem isDigit_or_eq_of_mem_toString {number : Int} {c : Char} (mem : c ∈ (toString number).toList) :
    c.isDigit = true ∨ c = '-' := by
  have digits (n : Nat) (here : c ∈ (Nat.repr n).toList) : c.isDigit = true := by
    rw [Nat.toList_repr] at here
    exact Nat.isDigit_of_mem_toDigits (by decide) (by decide) here
  cases number with
  | ofNat n => exact .inl (digits n mem)
  | negSucc n =>
    have written : toString (Int.negSucc n) = "-" ++ Nat.repr (n + 1) := rfl
    rw [written, String.toList_append, List.mem_append] at mem
    exact mem.symm.imp (digits (n + 1)) List.mem_singleton.1

theorem feed_not_mem_toString (number : Int) : '\n' ∉ (toString number).toList := fun mem =>
  absurd (isDigit_or_eq_of_mem_toString mem) (by decide)

namespace Rejection

variable {rejection : Rejection} {filename : String}

/-! ## The rows of a snippet -/

theorem feed_not_mem_message (rejection : Rejection) : '\n' ∉ rejection.message.toList := by
  have plain : ∀ reason : Reason, '\n' ∉ reason.message.toList := by
    intro reason
    cases reason <;> simp [Reason.message]
  unfold message
  split
  · show '\n' ∉ (rejection.reason.message ++ " " ++ quoted _).toList
    exact feed_not_mem_append (feed_not_mem_append (plain _) (by decide))
      (feed_not_mem_of_unbroken (unbroken_quoted _))
  · exact plain _

theorem isLine_of_mem_linesOf {source : List Char} {line : Line} (mem : line ∈ linesOf source) :
    line.IsLine := by
  unfold linesOf at mem
  split at mem
  · cases List.mem_singleton.1 mem
    exact ⟨by simp, .inl rfl⟩
  · exact Line.isLine_of_mem_ofText mem

theorem feed_not_mem_shownLine (source : List Char) (index : Nat) :
    '\n' ∉ shownLine (linesOf source) index := by
  unfold shownLine
  split
  · next line here =>
    have isLine := isLine_of_mem_linesOf (List.mem_of_getElem? here)
    rw [trimBreak_full isLine]
    exact isLine.feed_not_mem_visible
  · exact List.not_mem_nil

theorem feed_not_mem_shown (rejection : Rejection) (first : Int) :
    '\n' ∉ (rejection.snippet first).shown.toList := by
  unfold snippet
  split <;>
    · rw [String.toList_ofList]
      exact feed_not_mem_shownLine _ _

theorem message_snippet (rejection : Rejection) (first : Int) :
    (rejection.snippet first).message = rejection.message := by
  unfold snippet
  split <;> rfl

/-- No row has a line feed of its own. -/
theorem feed_not_mem_of_mem_rows (one_row : '\n' ∉ filename.toList) {first : Int} {row : String}
    (mem : row ∈ (rejection.snippet first).rows filename) : '\n' ∉ row.toList := by
  have message := feed_not_mem_message rejection
  have number := feed_not_mem_toString (rejection.snippet first).number
  have shown := feed_not_mem_shown rejection first
  rw [← message_snippet rejection first] at message
  generalize rejection.snippet first = snippet at mem message number shown
  have gutter : '\n' ∉ snippet.blankGutter.toList := by
    simp [Snippet.blankGutter, Snippet.toList_spaces]
  have line : '\n' ∉ ("--> " ++ filename ++ ":" ++ toString snippet.number).toList :=
    feed_not_mem_append (feed_not_mem_append (feed_not_mem_append (by decide) one_row) (by decide))
      number
  have place : '\n' ∉ (snippet.placeRow filename).toList := by
    refine feed_not_mem_append (by simp [Snippet.toList_spaces]) ?_
    split
    · next column _ _ =>
      exact feed_not_mem_append (feed_not_mem_append line (by decide))
        (feed_not_mem_toString (column + 1 : Nat))
    · exact line
  have marks : '\n' ∉ snippet.markRow.toList := by
    refine feed_not_mem_append (feed_not_mem_append gutter (by decide)) ?_
    split
    · simp [Snippet.toList_spaces]
    · decide
  simp only [Snippet.rows, List.mem_cons, List.not_mem_nil, or_false] at mem
  rcases mem with rfl | rfl | rfl | rfl | rfl
  · exact feed_not_mem_append (by decide) message
  · exact place
  · exact gutter
  · exact feed_not_mem_append (feed_not_mem_append number (by decide)) shown
  · exact marks

/-- **The text that is shown falls into the five rows again.** -/
theorem splitOn_format (rejection : Rejection) (one_row : '\n' ∉ filename.toList) (first : Int) :
    (rejection.format filename first).toList.splitOn '\n' =
      ((rejection.snippet first).rows filename).map String.toList := by
  rw [format, Snippet.render, String.toList_intercalate]
  refine List.splitOn_intercalate '\n' ?_ (by simp [Snippet.rows])
  intro row mem
  obtain ⟨text, here, rfl⟩ := List.mem_map.1 mem
  exact feed_not_mem_of_mem_rows one_row here

/-! ## A source that nothing breaks -/

variable {before piece following : List Char}

theorem linesOf_of_unbroken {source : List Char} (unbroken : ∀ c ∈ source, isLineBreak c = false) :
    linesOf source = [⟨source, []⟩] := by
  by_cases empty : source = []
  · rw [empty]
    rfl
  · rw [linesOf, Line.ofText_of_unbroken empty unbroken]

/-- The fault is marked at its own offsets: no line feed stands before it, and the line goes on
behind it. -/
theorem Exposes.snippet_of_unbroken (h : rejection.Exposes before piece following)
    (unbroken : ∀ c ∈ rejection.source.toList, isLineBreak c = false) (first : Int) :
    rejection.snippet first =
      ⟨rejection.message, first, rejection.source, some (before.length, piece.length)⟩ := by
  have some_source : rejection.source.toList ≠ [] := by
    rw [h.source]
    simp [h.some_text]
  have no_feed : '\n' ∉ before := by
    intro mem
    have here : '\n' ∈ rejection.source.toList := by
      rw [h.source]
      exact List.mem_append_left _ mem
    exact absurd (unbroken _ here) (by decide)
  have begun : before.rtakeWhile (· != '\n') = before :=
    List.rtakeWhile_eq_self_iff.2 fun c mem => by simpa using ne_of_mem_of_not_mem mem no_feed
  have visible : Line.visible ⟨rejection.source.toList, []⟩ =
      before.rtakeWhile (· != '\n') ++ (piece ++ following) := by
    rw [begun, ← h.source]
    exact List.append_nil _
  have lines : Line.ofText rejection.source.toList = [] ++ [⟨rejection.source.toList, []⟩] :=
    Line.ofText_of_unbroken some_source unbroken
  have snippet := h.snippet_eq lines (List.count_eq_zero.2 no_feed).symm visible first
  rw [snippet, visible, begun, ← h.source, String.ofList_toList]
  simp

/-- A fault without a place is shown at the only line there is. -/
theorem snippet_of_unplaced (unplaced : rejection.hasPosition = false)
    (unbroken : ∀ c ∈ rejection.source.toList, isLineBreak c = false) (first : Int) :
    rejection.snippet first = ⟨rejection.message, first, rejection.source, none⟩ := by
  have isLine : Line.IsLine ⟨rejection.source.toList, []⟩ := ⟨unbroken, .inl rfl⟩
  have shown : shownLine [⟨rejection.source.toList, []⟩] 0 = rejection.source.toList :=
    (trimBreak_full isLine).trans (List.append_nil _)
  unfold snippet
  simp [unplaced, linesOf_of_unbroken unbroken, shown]

end Rejection

/-! ## What is shown for a line -/

/-- How a fault with a span is shown at a line with a number: the row of the place names the column,
counted from one, and the row of the marks has one below each character of the span, behind the
gutter, and no other. -/
structure Span.IsMarked (span : Span) (filename : String) (number : Int) (text : String)
    (place marks : String) : Prop where
  some_text : span.start < span.stop
  within : span.stop ≤ text.length
  place : place = Snippet.spaces ((toString number).length + 1) ++
    s!"--> {filename}:{number}:{span.start + 1}"
  count : marks.toList.count '^' = span.stop - span.start
  columns : ∀ column, marks.toList[column]? = some '^' ↔
    (s!"{number} | ").length + span.start ≤ column ∧ column < (s!"{number} | ").length + span.stop
  below : aboveMarks (s!"{number} | {text}").toList marks.toList = (span.text text).toList.map some

/-- How a fault without a place is shown at a line with a number: the row of the place names no
column, and a note about the end stands where the marks would be. -/
structure IsNoted (filename : String) (number : Int) (place marks : String) : Prop where
  place : place = Snippet.spaces ((toString number).length + 1) ++ s!"--> {filename}:{number}"
  note : marks = Snippet.spaces ((toString number).length + 1) ++ "| (at end of input)"
  unmarked : '^' ∉ marks.toList

/-- The rows for a fault that is shown at a line with a number. -/
structure Rejection.RowsAt (rejection : Rejection) (filename : String) (number : Int)
    (text place marks : String) : Prop where
  rows : (rejection.format filename number).toList.splitOn '\n' =
    ["error: " ++ rejection.message, place, Snippet.spaces ((toString number).length + 1) ++ "|",
      s!"{number} | {text}", marks].map String.toList
  placed : rejection.hasPosition = true → ∃ span : Span, rejection.start = span.start ∧
    rejection.stop = span.stop ∧ span.IsMarked filename number text place marks
  unplaced : rejection.hasPosition = false → IsNoted filename number place marks

/-- Where the marks stand, if only blanks and marks are in their row. -/
theorem getElem?_append_replicate_eq_some_iff {blank : List Char} (unmarked : '^' ∉ blank)
    {length column : Nat} :
    (blank ++ List.replicate length '^')[column]? = some '^' ↔
      blank.length ≤ column ∧ column < blank.length + length := by
  rcases Nat.lt_or_ge column blank.length with before | behind
  · rw [List.getElem?_append_left before]
    exact iff_of_false (fun here => unmarked (List.mem_of_getElem? here)) (by omega)
  · rw [List.getElem?_append_right behind, List.getElem?_replicate]
    split
    · exact iff_of_true rfl (by omega)
    · exact iff_of_false (by simp) (by omega)

namespace Snippet

variable {snippet : Snippet} {before piece following : List Char}

/-- A row of marks has as many of them as its mark is long. -/
theorem count_markRow {column length : Nat} (mark : snippet.mark = some (column, length)) :
    snippet.markRow.toList.count '^' = length := by
  obtain ⟨blank, row, unmarked, -⟩ := exists_toList_markRow mark
  rw [row, List.count_append, List.count_eq_zero.2 unmarked, List.count_replicate_self, Nat.zero_add]

/-- The marks stand from their column on, which is counted from where the text of the line begins. -/
theorem getElem?_markRow_eq_some_iff {column length : Nat}
    (mark : snippet.mark = some (column, length)) {place : Nat} :
    snippet.markRow.toList[place]? = some '^' ↔
      (s!"{snippet.number} | ").length + column ≤ place ∧
        place < (s!"{snippet.number} | ").length + column + length := by
  obtain ⟨blank, row, unmarked, width⟩ := exists_toList_markRow mark
  have gutter : (s!"{snippet.number} | ").length = snippet.numberText.length + 3 := by
    show (snippet.numberText ++ " | ").length = _
    rw [String.length_append]
    rfl
  rw [row, getElem?_append_replicate_eq_some_iff unmarked, width, gutter]

/-- A snippet with a mark marks the part of its line that the mark is for. -/
theorem isMarked (shown : snippet.shown.toList = before ++ (piece ++ following))
    (some_text : piece ≠ []) (mark : snippet.mark = some (before.length, piece.length))
    (filename : String) :
    Span.IsMarked ⟨before.length, (before ++ piece).length⟩ filename snippet.number snippet.shown
      (snippet.placeRow filename) snippet.markRow := by
  have text : Span.text ⟨before.length, (before ++ piece).length⟩ snippet.shown =
      String.ofList piece := by
    rw [Span.text, shown, ← List.append_assoc, List.take_left, List.drop_left]
  constructor
  · show before.length < (before ++ piece).length
    rw [List.length_append]
    exact Nat.lt_add_of_pos_right (List.length_pos_iff.2 some_text)
  · show (before ++ piece).length ≤ snippet.shown.length
    rw [← String.length_toList, shown, ← List.append_assoc]
    exact (List.prefix_append _ following).length_le
  · rw [placeRow, mark]
    rfl
  · show _ = (before ++ piece).length - before.length
    rw [count_markRow mark, List.length_append, Nat.add_sub_cancel_left]
  · intro column
    show _ ↔ _ + before.length ≤ column ∧ column < _ + (before ++ piece).length
    rw [getElem?_markRow_eq_some_iff mark, List.length_append, Nat.add_assoc]
  · rw [text, String.toList_ofList]
    exact aboveMarks_markRow shown mark

/-- A snippet without a mark notes the end. -/
theorem isNoted (mark : snippet.mark = none) (filename : String) :
    IsNoted filename snippet.number (snippet.placeRow filename) snippet.markRow := by
  have note : snippet.markRow = spaces snippet.gutterWidth ++ "| (at end of input)" := by
    rw [markRow, mark, blankGutter, String.append_assoc, String.append_assoc]
    rfl
  constructor
  · rw [placeRow, mark]
    rfl
  · exact note
  · rw [note]
    simp [toList_spaces]

end Snippet

namespace Rejection

variable {rejection : Rejection} {filename : String}

/-- A rejection of a source that nothing breaks is shown at it. -/
theorem rowsAt_of_evaluate {source : String} {cause : Cause}
    (rejected : evaluate source = .error (.rejected rejection cause))
    (unbroken : ∀ c ∈ source.toList, isLineBreak c = false) (one_row : '\n' ∉ filename.toList)
    (number : Int) : ∃ place marks, rejection.RowsAt filename number source place marks := by
  obtain ⟨rfl, -, -⟩ := evaluate_rejected_place rejected
  have split := rejection.splitOn_format one_row number
  by_cases placed : rejection.hasPosition = true
  · obtain ⟨-, before, piece, following, exposes⟩ := exposes_of_evaluate rejected placed
    have snippet := exposes.snippet_of_unbroken unbroken number
    have shown : (rejection.snippet number).shown.toList = before ++ (piece ++ following) := by
      rw [snippet, exposes.source]
    have mark : (rejection.snippet number).mark = some (before.length, piece.length) := by
      rw [snippet]
    have marked := Snippet.isMarked shown exposes.some_text mark filename
    rw [snippet] at split marked
    have stop : rejection.stop = (before ++ piece).length := by
      rw [exposes.stop, List.length_append, Int.natCast_add]
    exact ⟨_, _, split, fun _ => ⟨_, exposes.start, stop, marked⟩,
      fun unplaced => absurd placed (by simp [unplaced])⟩
  · have unplaced : rejection.hasPosition = false := Bool.eq_false_iff.2 placed
    have snippet := snippet_of_unplaced unplaced unbroken number
    have mark : (rejection.snippet number).mark = none := by
      rw [snippet]
    have noted := Snippet.isNoted mark filename
    rw [snippet] at split noted
    exact ⟨_, _, split, fun placed' => absurd placed' placed, fun _ => noted⟩

end Rejection

/-! ## The main statement -/

/-- **What is shown for a line of a document that fails**: five rows, which name its own number and
show its own text, with the marks below the fault, or the note about the end. -/
theorem exists_rowsAt_of_evaluateLines {filename : String} (one_row : '\n' ∉ filename.toList)
    (document : String) (comments : Bool) :
    ∃ results, evaluateLines document comments = .ok results ∧
      ∀ result ∈ results, ∀ rejection, result.outcome = .error rejection →
        ∃ place marks, rejection.RowsAt filename result.line result.text place marks := by
  obtain ⟨results, evaluated, related⟩ := exists_evaluateLines document comments
  refine ⟨results, evaluated, fun result mem rejection failed => ?_⟩
  obtain ⟨index, line, found, -, -, isOf⟩ := exists_line_of_mem related mem
  have isLine : line.IsLine := Line.isLine_of_mem_ofText (List.mem_of_getElem? found)
  have unbroken : ∀ c ∈ line.text.toList, isLineBreak c = false := by
    rw [Line.text, String.toList_ofList]
    exact isLine.unbroken
  have comes := isOf.outcome
  rw [failed] at comes
  cases comes with
  | rejection rejected =>
    rw [isOf.source]
    exact rejection.rowsAt_of_evaluate rejected unbroken one_row result.line

/-- A parenthesis that closes nothing, on the second line of a document, is shown under the number
two, although it is on the first line of its own text. -/
theorem exists_rowsAt_of_evaluateLines_secondLine :
    '\n' ∉ "<file>".toList ∧
    evaluateLines "\n)" true = .ok [⟨2, ")", .error ⟨.unbalanced, 0, 1, ")", none⟩⟩] ∧
    ∃ place marks,
      Rejection.RowsAt ⟨.unbalanced, 0, 1, ")", none⟩ "<file>" 2 ")" place marks := by
  have one_row : '\n' ∉ "<file>".toList := by decide
  have lines : Calculator.linesToEvaluate "\n)" true = [(⟨[')'], []⟩, 2)] := by decide
  have only : evaluateLines "\n)" true =
      .ok [⟨2, ")", .error ⟨.unbalanced, 0, 1, ")", none⟩⟩] := by
    rw [evaluateLines, Calculator.evalLines, lines, List.mapM_cons]
    show Calculator.standard.evalLine ")" 2 >>= _ = _
    rw [evalLine_of_rejected evaluate_closeParen]
    rfl
  obtain ⟨results, evaluated, shown⟩ := exists_rowsAt_of_evaluateLines one_row "\n)" true
  cases only.symm.trans evaluated
  exact ⟨one_row, only, shown _ (List.mem_singleton_self _) _ rfl⟩

end Reckon
