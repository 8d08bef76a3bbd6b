import Reckon.Proofs.Rejection.Place
import Reckon.Proofs.Text.Line
import Reckon.Rejection.Snippet

/-!
# The line that a rejection shows

A rejection with a place is shown with a line of the source and marks below it.  It should be the
line on which the fault begins, and the characters above the marks should be those of the fault:
`Rejection.ShownAt`.

The row is found by counting line feeds, and the column by counting from the last of them, while
the lines are those of `Line.ofText`, which a carriage return ends as well.  So a carriage return
before the fault that has no line feed behind it makes the number of the line too small, and it is
the only thing that does (`evaluate_rejected_shownAt_iff`).  With the number the row and the marks
go wrong, down to marks with nothing above them (`not_forall_evaluate_rejected_shownAt`).

That no other break stands before the fault is due to the lexer: what it reads is broken by line
feeds and carriage returns only (`Token.breaks_of_mem_join`).  The fault itself may be any other
break, as an unknown symbol; it then ends the line that is shown, and is seen on it.
-/

namespace Reckon

/-- The characters of a row that stand above the marks of the row below it; above a mark behind
the end of the row there is none. -/
def aboveMarks : List Char → List Char → List (Option Char)
  | _, [] => []
  | row, c :: below =>
    if c = '^' then row.head? :: aboveMarks row.tail below else aboveMarks row.tail below

/-- Whether a rejection is shown at a line of the source, which has others above it: the fault
begins on this line, the fourth of the rows that `Rejection.format` joins shows it, and the
characters above the marks of the fifth row are those of the fault. -/
def Rejection.ShownAt (rejection : Rejection) (source filename : String) (first : Int)
    (above : List Line) (line : Line) : Prop :=
  Line.LiesOn source.toList above line rejection.start.toNat ∧
    ∃ message place gutter shown marks,
      (rejection.snippet first).rows filename = [message, place, gutter, shown, marks] ∧
      shown = s!"{(rejection.snippet first).number} | {String.ofList line.visible}" ∧
      aboveMarks shown.toList marks.toList =
        (Span.text ⟨rejection.start.toNat, rejection.stop.toNat⟩ source).toList.map some

/-! ## Marks -/

theorem aboveMarks_append_of_not_mem {blank : List Char} (unmarked : '^' ∉ blank)
    (row below : List Char) :
    aboveMarks row (blank ++ below) = aboveMarks (row.drop blank.length) below := by
  induction blank generalizing row with
  | nil => rfl
  | cons c blank ih =>
    rw [List.mem_cons, not_or] at unmarked
    rw [List.cons_append, aboveMarks, if_neg (Ne.symm unmarked.1), ih unmarked.2, List.drop_tail,
      List.length_cons]

theorem aboveMarks_replicate (marked following : List Char) :
    aboveMarks (marked ++ following) (List.replicate marked.length '^') = marked.map some := by
  induction marked with
  | nil => rfl
  | cons c marked ih =>
    rw [List.length_cons, List.replicate_succ, aboveMarks, if_pos rfl, List.map_cons, ← ih]
    rfl

namespace Snippet

variable {snippet : Snippet} {begun marked following : List Char}

theorem toList_spaces (count : Nat) : (spaces count).toList = List.replicate count ' ' := by
  rw [spaces, String.toList_ofList]

/-- The row of the marks, in front of which there is no other mark. -/
theorem exists_toList_markRow {column length : Nat} (mark : snippet.mark = some (column, length)) :
    ∃ blank, snippet.markRow.toList = blank ++ List.replicate length '^' ∧ '^' ∉ blank ∧
      blank.length = snippet.numberText.length + 3 + column := by
  refine ⟨List.replicate snippet.gutterWidth ' ' ++ ['|', ' '] ++ List.replicate column ' ', ?_, ?_,
    ?_⟩
  · simp [markRow, mark, blankGutter, toList_spaces]
  · simp
  · simp only [List.length_append, List.length_replicate, List.length_cons, List.length_nil,
      gutterWidth]

/-- **The marks stand below the part of the line that they are for.** -/
theorem aboveMarks_markRow (shown : snippet.shown.toList = begun ++ (marked ++ following))
    (mark : snippet.mark = some (begun.length, marked.length)) :
    aboveMarks (s!"{snippet.numberText} | {snippet.shown}").toList snippet.markRow.toList =
      marked.map some := by
  have row : (s!"{snippet.numberText} | {snippet.shown}").toList =
      (snippet.numberText.toList ++ [' ', '|', ' '] ++ begun) ++ (marked ++ following) := by
    show (snippet.numberText ++ " | " ++ snippet.shown).toList = _
    rw [String.toList_append, String.toList_append, shown, ← List.append_assoc]
    rfl
  obtain ⟨blank, marks, unmarked, width⟩ := exists_toList_markRow mark
  have width' : blank.length = (snippet.numberText.toList ++ [' ', '|', ' '] ++ begun).length := by
    simp only [width, List.length_append, List.length_cons, List.length_nil, String.length_toList]
  rw [marks, aboveMarks_append_of_not_mem unmarked, row, width', List.drop_left,
    aboveMarks_replicate]

end Snippet

/-! ## The line that is shown -/

namespace Rejection

open Line (ReturnsPaired)

variable {rejection : Rejection} {before piece following : List Char}

theorem afterLastFeed_eq (text : List Char) :
    afterLastFeed text = (text.rtakeWhile (· != '\n')).length := by
  rw [afterLastFeed, List.rtakeWhile, List.length_reverse]

theorem trimBreak_eq (text : List Char) :
    trimBreak text = (text.rdropWhile (· == '\n')).rdropWhile (· == '\r') := by
  simp only [trimBreak, List.rdropWhile, List.reverse_reverse]

theorem rdropWhile_of_not_mem {c : Char} {text : List Char} (h : c ∉ text) :
    text.rdropWhile (· == c) = text := by
  refine List.rdropWhile_eq_self_iff.2 fun some_text last => h ?_
  rw [← beq_iff_eq.1 last]
  exact List.getLast_mem some_text

/-- Of a line is shown what is to be seen of it. -/
theorem trimBreak_full {line : Line} (h : line.IsLine) : trimBreak line.full = line.visible := by
  have no_feed : line.content.rdropWhile (· == '\n') = line.content :=
    rdropWhile_of_not_mem (h.not_mem_content rfl)
  have no_return : line.content.rdropWhile (· == '\r') = line.content :=
    rdropWhile_of_not_mem (h.not_mem_content rfl)
  obtain ⟨content, ending⟩ := line
  obtain ⟨-, ending_eq⟩ := h
  rw [trimBreak_eq, Line.full, Line.visible]
  rcases ending_eq with rfl | ⟨c, -, rfl⟩ | rfl
  · rw [List.append_nil, no_feed, no_return]
    exact (List.append_nil content).symm
  · by_cases feed : c = '\n'
    · subst feed
      rw [List.rdropWhile_concat_pos _ _ _ rfl, no_feed, no_return]
      exact (List.append_nil content).symm
    · rw [List.rdropWhile_concat_neg _ _ _ (by simpa using feed)]
      by_cases carriage : c = '\r'
      · subst carriage
        rw [List.rdropWhile_concat_pos _ _ _ rfl, no_return]
        exact (List.append_nil content).symm
      · rw [List.rdropWhile_concat_neg _ _ _ (by simpa using carriage)]
        simp [feed, carriage]
  · rw [List.append_cons content '\r' ['\n'], List.rdropWhile_concat_pos _ _ _ rfl,
      List.rdropWhile_concat_neg _ _ _ (by decide), List.rdropWhile_concat_pos _ _ _ rfl, no_return]
    exact (List.append_nil content).symm

theorem linesOf_of_eq {source : List Char} {line : Line} {above below : List Line}
    (lines : Line.ofText source = above ++ line :: below) :
    linesOf source = above ++ line :: below := by
  rw [linesOf, lines]
  split
  · next none => exact absurd none (by simp)
  · rfl

/-- What a fault is like that can be shown: its text stands behind another that is broken by line
feeds and carriage returns only, and all of it is seen on the line that begins with it. -/
structure Exposes (rejection : Rejection) (before piece following : List Char) : Prop where
  source : rejection.source.toList = before ++ (piece ++ following)
  start : rejection.start = before.length
  stop : rejection.stop = before.length + piece.length
  some_text : piece ≠ []
  breaks : ∀ c ∈ before, isLineBreak c = true → c = '\n' ∨ c = '\r'
  seen : ∃ line below, Line.ofText (piece ++ following) = line :: below ∧ piece <+: line.visible

namespace Exposes

theorem start_nat (h : rejection.Exposes before piece following) :
    rejection.start.toNat = before.length := by
  rw [h.start, Int.toNat_natCast]

theorem stop_nat (h : rejection.Exposes before piece following) :
    rejection.stop.toNat = (before ++ piece).length := by
  rw [h.stop, List.length_append]
  omega

/-- The text of the fault. -/
theorem toList_text (h : rejection.Exposes before piece following) :
    (Span.text ⟨rejection.start.toNat, rejection.stop.toNat⟩ rejection.source).toList = piece := by
  rw [Span.text, String.toList_ofList, h.start_nat, h.stop_nat, h.source, ← List.append_assoc,
    List.take_left, List.drop_left]

theorem take_start (h : rejection.Exposes before piece following) :
    rejection.source.toList.take rejection.start.toNat = before := by
  rw [h.start_nat, h.source, List.take_left]

theorem hasPosition (h : rejection.Exposes before piece following) :
    rejection.hasPosition = true := by
  rw [Rejection.hasPosition, h.start]
  exact decide_eq_true (Int.natCast_nonneg _)

/-- The number that is shown counts the line feeds before the fault. -/
theorem number_eq (h : rejection.Exposes before piece following) (first : Int) :
    (rejection.snippet first).number = first + before.count '\n' := by
  unfold snippet
  simp only [h.hasPosition, ↓reduceIte, h.take_start]

/-- What is shown of a fault, where the line feeds before it count the lines above its own. -/
theorem snippet_eq (h : rejection.Exposes before piece following) {above below : List Line}
    {line : Line} {behind : List Char}
    (lines : Line.ofText rejection.source.toList = above ++ line :: below)
    (count : above.length = before.count '\n')
    (visible : line.visible = before.rtakeWhile (· != '\n') ++ (piece ++ behind)) (first : Int) :
    rejection.snippet first = ⟨rejection.message, first + above.length, String.ofList line.visible,
      some ((before.rtakeWhile (· != '\n')).length, piece.length)⟩ := by
  have column : rejection.start.toNat - (before.length - afterLastFeed before) =
      (before.rtakeWhile (· != '\n')).length := by
    have within := (List.rtakeWhile_suffix (· != '\n') before).length_le
    rw [h.start_nat, afterLastFeed_eq]
    omega
  have mem : line ∈ Line.ofText rejection.source.toList := by
    rw [lines]
    exact List.mem_append_right _ (List.mem_cons_self ..)
  have shown : shownLine (linesOf rejection.source.toList) above.length = line.visible := by
    have here : (above ++ line :: below)[above.length]? = some line := by
      rw [List.getElem?_append_right (Nat.le_refl _), Nat.sub_self, List.getElem?_cons_zero]
    rw [linesOf_of_eq lines, shownLine, here]
    exact trimBreak_full (Line.isLine_of_mem_ofText mem)
  -- the line goes on as far as the fault does, so the mark is not cut off
  have length : (max 1 (min (rejection.stop - rejection.start)
      (line.visible.length - (before.rtakeWhile (· != '\n')).length))).toNat = piece.length := by
    have some_length : 0 < piece.length := List.length_pos_iff.2 h.some_text
    rw [visible, List.length_append, List.length_append, h.start, h.stop]
    omega
  unfold snippet
  simp only [h.hasPosition, ↓reduceIte, h.take_start, column, ← count, shown, length]

/-- **A fault is shown** where the carriage returns before it are paired. -/
theorem shownAt (h : rejection.Exposes before piece following) (paired : ReturnsPaired before)
    (filename : String) (first : Int) :
    ∃ above line, rejection.ShownAt rejection.source filename first above line ∧
      (rejection.snippet first).number = first + above.length := by
  obtain ⟨line, below, lines, behind, seen⟩ := h.seen
  obtain ⟨above, all, count, complete⟩ := Line.exists_line_behind h.breaks paired lines
  rw [← h.source] at all
  have visible : Line.visible ⟨before.rtakeWhile (· != '\n') ++ line.content, line.ending⟩ =
      before.rtakeWhile (· != '\n') ++ (piece ++ behind) := by
    rw [seen]
    exact List.append_assoc _ _ _
  have snippet := h.snippet_eq all count visible first
  generalize before.rtakeWhile (· != '\n') = begun at all complete visible snippet
  have mark : (rejection.snippet first).mark = some (begun.length, piece.length) := by
    rw [snippet]
  have shown : (rejection.snippet first).shown.toList = begun ++ (piece ++ behind) := by
    rw [snippet, String.toList_ofList, visible]
  have place : (above.flatMap Line.full).length + begun.length = before.length := by
    rw [← complete, List.length_append]
  have long : begun.length + piece.length ≤
      (Line.full ⟨begun ++ line.content, line.ending⟩).length := by
    have le := (Line.visible_sublist ⟨begun ++ line.content, line.ending⟩).length_le
    rw [visible, List.length_append, List.length_append] at le
    omega
  have some_length : 0 < piece.length := List.length_pos_iff.2 h.some_text
  refine ⟨above, ⟨begun ++ line.content, line.ending⟩, ⟨⟨⟨below, all⟩, ?_, ?_⟩, _, _, _, _, _, rfl,
    ?_, ?_⟩, ?_⟩
  · rw [h.start_nat]
    omega
  · rw [h.start_nat]
    omega
  · rw [snippet]
    rfl
  · rw [h.toList_text, Snippet.aboveMarks_markRow shown mark]
  · rw [snippet]

/-- **A fault is shown under its number only** where the carriage returns before it are paired. -/
theorem returnsPaired (h : rejection.Exposes before piece following) {filename : String}
    {first : Int} {above : List Line} {line : Line}
    (shown : rejection.ShownAt rejection.source filename first above line)
    (number : (rejection.snippet first).number = first + above.length) : ReturnsPaired before := by
  have stays : (rejection.source.toList.drop rejection.start.toNat).head? ≠ some '\n' := by
    obtain ⟨other, below, lines, seen⟩ := h.seen
    have mem : other ∈ Line.ofText (piece ++ following) := by
      rw [lines]
      exact List.mem_cons_self ..
    rw [h.start_nat, h.source, List.drop_left, List.head?_append_of_ne_nil _ h.some_text]
    exact fun feed => (Line.isLine_of_mem_ofText mem).feed_not_mem_visible
      (seen.mem (List.mem_of_mem_head? feed))
  have count : above.length = (rejection.source.toList.take rejection.start.toNat).count '\n' := by
    have counted := h.number_eq first
    rw [h.take_start]
    omega
  have paired := shown.1.returnsPaired stays count
  rwa [h.take_start] at paired

end Exposes

end Rejection

/-! ## What stands before a fault -/

/-- Of the characters that break lines, only the line feed and the carriage return are blanks, and
no token begins with another. -/
theorem kindBeginningWith?_of_isLineBreak {c : Char} (h : isLineBreak c = true) :
    kindBeginningWith? c = if c = '\n' ∨ c = '\r' then some .space else none := by
  simp only [isLineBreak, Bool.or_eq_true, beq_iff_eq] at h
  rcases h with ((((((((rfl | rfl) | rfl) | rfl) | rfl) | rfl) | rfl) | rfl) | rfl) | rfl <;> rfl

namespace Token

/-- A lexeme has breaks in it only if it is blank, and only line feeds and carriage returns. -/
theorem IsLexeme.of_isLineBreak {token : Token} (h : token.IsLexeme) {c : Char}
    (mem : c ∈ token.text.toList) (breaks : isLineBreak c = true) :
    token.kind = .space ∧ (c = '\n' ∨ c = '\r') := by
  rcases h.kind_of_mem mem with tells | ⟨_, rfl⟩
  · rw [kindBeginningWith?_of_isLineBreak breaks] at tells
    split at tells
    · next blank => exact ⟨(Option.some.inj tells).symm, blank⟩
    · exact absurd tells (by simp)
  · exact absurd breaks (by decide)

/-- What lexemes make up is broken by line feeds and carriage returns only. -/
theorem breaks_of_mem_join {tokens : List Token} (lexemes : ∀ token ∈ tokens, token.IsLexeme) :
    ∀ c ∈ (join tokens).toList, isLineBreak c = true → c = '\n' ∨ c = '\r' := by
  intro c mem breaks
  obtain ⟨token, here, inside⟩ := mem_join_iff.1 mem
  exact ((lexemes token here).of_isLineBreak inside breaks).2

end Token

theorem Reason.Concerns.ne_space {reason : Reason} {kind : TokenKind} (h : reason.Concerns kind) :
    kind ≠ .space := by
  rintro rfl
  cases reason <;> simp [Reason.Concerns] at h

/-! ## The main statement -/

/-- A symbol that no rule reads can be shown, whatever it is. -/
theorem exposes_of_unknownSymbol {source : String} {symbol : Char} {offset : Nat}
    (unknown : tokenize arithmeticRules source = .error (.unknownSymbol symbol offset)) :
    Rejection.Exposes
      ⟨.unknownSymbol, offset, offset + 1, source, some (String.singleton symbol)⟩
      (source.toList.take offset) [symbol] (source.toList.drop (offset + 1)) := by
  obtain ⟨front, found, here, passed⟩ := exists_finds_of_unknownSymbol unknown
  obtain ⟨within, same⟩ := List.getElem?_eq_some_iff.1 here
  have length : (source.toList.take offset).length = offset := by
    rw [List.length_take]
    omega
  -- an unknown symbol may break the line itself, but not as a line feed or a carriage return
  have not_blank := Lexer.not_mem_blanks_of_passed here passed
  have feed : symbol ≠ '\n' := by
    rintro rfl
    exact not_blank (by decide)
  have carriage : symbol ≠ '\r' := by
    rintro rfl
    exact not_blank (by decide)
  refine ⟨?_, ?_, ?_, List.cons_ne_nil _ _, ?_, Line.exists_line_of_char feed carriage _⟩
  · rw [List.singleton_append, ← same, ← List.drop_eq_getElem_cons within, List.take_append_drop]
  · rw [length]
  · rw [length]
    rfl
  · have lexemes := found.forall_of_yields yields_arithmeticRules
    have before := Token.breaks_of_mem_join lexemes
    rwa [found.join_eq_take, String.toList_ofList] at before

/-- A token that is misplaced can be shown. -/
theorem exposes_of_check_error {front back : List Token} {token : Token} {fault : Misplacement}
    (spelled : Token.WellSpelled (front ++ token :: back))
    (checked : Arrangement.check (front ++ token :: back) = .error fault)
    (place : fault.index = some front.length) :
    Rejection.Exposes
      ⟨fault.reason, (Token.spanBehind front token).start, (Token.spanBehind front token).stop,
        Token.join (front ++ token :: back), none⟩
      (Token.join front).toList token.text.toList (Token.join back).toList := by
  have lexeme := spelled.isLexeme
  have not_blank := (Arrangement.concerns_of_check_error checked place).ne_space
  have unbroken : ∀ c ∈ token.text.toList, isLineBreak c = false := by
    intro c mem
    rw [Bool.eq_false_iff]
    intro breaks
    exact not_blank (lexeme.of_isLineBreak mem breaks).1
  have length : (Token.join front).toList.length = Token.width front := by
    rw [String.length_toList, Token.length_join]
  refine ⟨?_, ?_, ?_, lexeme.toList_ne_nil, ?_, ?_⟩
  · rw [Token.join_append, Token.join_cons, String.toList_append, String.toList_append]
  · rw [length]
    rfl
  · rw [length, String.length_toList]
    rfl
  · exact Token.breaks_of_mem_join fun other mem =>
      spelled.lexeme other (List.mem_append_left _ mem)
  · obtain ⟨line, below, lines, begins⟩ :=
      Line.exists_line_of_unbroken lexeme.toList_ne_nil unbroken (Token.join back).toList
    exact ⟨line, below, lines, begins.trans (List.prefix_append _ _)⟩

/-- Every rejection with a place can be shown. -/
theorem exposes_of_evaluate {source : String} {rejection : Rejection} {cause : Cause}
    (h : evaluate source = .error (.rejected rejection cause))
    (placed : rejection.hasPosition = true) :
    rejection.source = source ∧ ∃ before piece following,
      rejection.Exposes before piece following := by
  cases evaluate_eq_rejected_iff.1 h with
  | unknownSymbol unknown => exact ⟨rfl, _, _, _, exposes_of_unknownSymbol unknown⟩
  | unplaced => exact absurd placed (by simp [Rejection.hasPosition])
  | placed spelled checked place =>
    exact ⟨rfl, _, _, _, exposes_of_check_error spelled checked place⟩

/-- Blanks and a parenthesis that closes nothing are well spelled. -/
theorem wellSpelled_space_closeParen {blank : String} (some_text : blank ≠ "")
    (inside : blank.toList ⊆ blanks.toList) :
    Token.WellSpelled [⟨.space, blank⟩, ⟨.closeParen, ")"⟩] :=
  ⟨List.forall_mem_cons.2 ⟨⟨some_text, fun _ mem => inside mem⟩, List.forall_mem_singleton.2 rfl⟩,
    by simp [Token.Apart]⟩

/-- **A rejection with a place is shown right, under the right number, exactly where every carriage
return before the fault is paired.** -/
theorem evaluate_rejected_shownAt_iff {source : String} {rejection : Rejection} {cause : Cause}
    (h : evaluate source = .error (.rejected rejection cause))
    (placed : rejection.hasPosition = true) (filename : String) (first : Int) :
    (∃ above line, rejection.ShownAt source filename first above line ∧
      (rejection.snippet first).number = first + above.length) ↔
    Line.ReturnsPaired (source.toList.take rejection.start.toNat) := by
  obtain ⟨rfl, before, piece, following, exposes⟩ := exposes_of_evaluate h placed
  rw [exposes.take_start]
  constructor
  · rintro ⟨above, line, shown, number⟩
    exact exposes.returnsPaired shown number
  · intro paired
    exact exposes.shownAt paired filename first

/-- A parenthesis on the second line is shown, where the first line ends with both characters. -/
theorem evaluate_rejected_shownAt_secondLine :
    evaluate "\r\n)" = .error (.rejected ⟨.unbalanced, 2, 3, "\r\n)", none⟩
      (.arrangement ⟨.unbalanced, some 1⟩)) ∧
    ∃ above line,
      Rejection.ShownAt ⟨.unbalanced, 2, 3, "\r\n)", none⟩ "\r\n)" "<expr>" 1 above line ∧
      (Rejection.snippet ⟨.unbalanced, 2, 3, "\r\n)", none⟩ 1).number = 1 + above.length := by
  have spelled : Token.WellSpelled [⟨.space, "\r\n"⟩, ⟨.closeParen, ")"⟩] :=
    wellSpelled_space_closeParen (by decide) (by decide)
  have read := tokenize_arithmeticRules_eq_ok_iff.2 ⟨spelled, rfl⟩
  have rejected : evaluate "\r\n)" = .error (.rejected ⟨.unbalanced, 2, 3, "\r\n)", none⟩
      (.arrangement ⟨.unbalanced, some 1⟩)) := Calculator.eval_eq_of_check_error read rfl
  have paired : Line.ReturnsPaired ("\r\n)".toList.take 2) := by decide
  exact ⟨rejected, (evaluate_rejected_shownAt_iff rejected rfl "<expr>" 1).2 paired⟩

/-- **A carriage return on its own is not counted.**  The parenthesis is on the second line, and the
first one is shown, with the mark behind its end. -/
theorem not_forall_evaluate_rejected_shownAt : ¬∀ source rejection cause filename first,
    evaluate source = .error (.rejected rejection cause) → rejection.hasPosition = true →
      ∃ above line, rejection.ShownAt source filename first above line := by
  intro claimed
  have spelled : Token.WellSpelled [⟨.space, "\r"⟩, ⟨.closeParen, ")"⟩] :=
    wellSpelled_space_closeParen (by decide) (by decide)
  have read := tokenize_arithmeticRules_eq_ok_iff.2 ⟨spelled, rfl⟩
  have rejected : evaluate "\r)" = .error (.rejected ⟨.unbalanced, 1, 2, "\r)", none⟩
      (.arrangement ⟨.unbalanced, some 1⟩)) := Calculator.eval_eq_of_check_error read rfl
  obtain ⟨above, line, -, message, place, gutter, shown, marks, rows, -, same⟩ :=
    claimed "\r)" _ _ "<expr>" 1 rejected rfl
  have rendered : (Rejection.snippet ⟨.unbalanced, 1, 2, "\r)", none⟩ 1).rows "<expr>" =
      ["error: unbalanced parentheses", "  --> <expr>:1:2", "  |", "1 | ", "  |  ^"] := by decide
  have both := rendered.symm.trans rows
  simp only [List.cons.injEq] at both
  obtain ⟨-, -, -, rfl, rfl, -⟩ := both
  have nothing : aboveMarks "1 | ".toList "  |  ^".toList = [none] := rfl
  have fault : (Span.text ⟨1, 2⟩ "\r)").toList.map some = [some ')'] := rfl
  exact absurd (nothing.symm.trans (same.trans fault)) (by decide)

end Reckon
