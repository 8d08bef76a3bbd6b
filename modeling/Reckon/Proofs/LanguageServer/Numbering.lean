import Reckon.Proofs.LanguageServer
import Reckon.Proofs.Text.Line

/-!
# The line that an editor looks for

A diagnostic names a line by its number, counted from zero.  An editor finds the line by counting the
breaks of its own protocol: the line feed, the carriage return, and the two of them together as one
(`Line.editorBreaks`).  The number in the diagnostic counts lines as `Line.ofText` has them, which
eight other characters break as well.

So the two agree exactly where none of the other breaks stands before the fault, and otherwise the
number is too large by as many as there are (`handle_numbering`).  This is a statement about all
that stands before the fault, and not about its line only: one form feed at the top of a document
moves every later diagnostic one line down (`not_forall_line_eq_editorBreaks`).

The count goes along the text (`length_above`).  In front of the lines of a text a new character is
part of the first line, or a line of its own, or it joins the break of the first line; and each time
both sides change by the same.
-/

namespace Reckon

namespace Line

/-- The number of line breaks that an editor counts in a text. -/
def editorBreaks : List Char → Nat
  | '\r' :: '\n' :: rest => editorBreaks rest + 1
  | c :: rest => editorBreaks rest + if c = '\n' ∨ c = '\r' then 1 else 0
  | [] => 0

/-- Whether a character breaks a line, but not for an editor. -/
def isOtherBreak (c : Char) : Bool := isLineBreak c && c != '\n' && c != '\r'

/-- The number of line breaks in a text that an editor does not count. -/
def otherBreaks (text : List Char) : Nat := text.countP isOtherBreak

variable {text begun : List Char} {c : Char} {above below : List Line} {line : Line}

theorem otherBreaks_eq_zero_iff :
    otherBreaks text = 0 ↔ ∀ c ∈ text, isLineBreak c = true → c = '\n' ∨ c = '\r' := by
  rw [otherBreaks, List.countP_eq_zero]
  refine forall₂_congr fun c _ => ?_
  simp only [isOtherBreak, Bool.and_eq_true, bne_iff_ne, ne_eq, not_and, Decidable.not_not]
  constructor
  · intro h breaks
    by_cases feed : c = '\n'
    · exact .inl feed
    · exact .inr (h ⟨breaks, feed⟩)
  · rintro h ⟨breaks, other⟩
    exact (h breaks).resolve_left other

/-- The breaks of a text, those that an editor counts and the others. -/
def allBreaks (text : List Char) : Nat := editorBreaks text + otherBreaks text

/-- A carriage return joins the line feed behind it. -/
theorem allBreaks_return_feed (text : List Char) :
    allBreaks ('\r' :: '\n' :: text) = allBreaks ('\n' :: text) := by
  have others : otherBreaks ('\r' :: '\n' :: text) = otherBreaks ('\n' :: text) := rfl
  rw [allBreaks, allBreaks, others, editorBreaks, editorBreaks]
  · rfl
  · simp

/-- Every other character is one break, or none. -/
theorem allBreaks_cons (apart : c = '\r' → text.head? ≠ some '\n') :
    allBreaks (c :: text) = allBreaks text + (isLineBreak c).toNat := by
  have counted : editorBreaks (c :: text) =
      editorBreaks text + if c = '\n' ∨ c = '\r' then 1 else 0 := by
    rw [editorBreaks]
    rintro rest rfl rfl
    exact apart rfl rfl
  rw [allBreaks, counted, otherBreaks, List.countP_cons, allBreaks, otherBreaks]
  by_cases own : c = '\n' ∨ c = '\r'
  · rcases own with rfl | rfl
    · simp [isOtherBreak, isLineBreak]
      omega
    · simp [isOtherBreak, isLineBreak]
      omega
  · obtain ⟨feed, carriage⟩ := not_or.1 own
    have other : isOtherBreak c = isLineBreak c := by
      rw [isOtherBreak, bne_iff_ne.2 feed, bne_iff_ne.2 carriage, Bool.and_true, Bool.and_true]
    rw [if_neg own, other]
    cases isLineBreak c with
    | false => simp
    | true => simp [Nat.add_assoc]

theorem allBreaks_of_unbroken (unbroken : ∀ c ∈ text, isLineBreak c = false) :
    allBreaks text = 0 := by
  induction text with
  | nil => rfl
  | cons c text ih =>
    obtain ⟨stays, others⟩ := List.forall_mem_cons.1 unbroken
    have apart : c = '\r' → text.head? ≠ some '\n' := by
      rintro rfl
      exact absurd stays (by decide)
    rw [allBreaks_cons apart, ih others, stays]
    rfl

/-- What stands before a place on a line is the beginning of the text. -/
theorem isPrefix_of_ofText (lines : ofText text = above ++ line :: below)
    (begins : begun <+: line.content) : above.flatMap full ++ begun <+: text := by
  obtain ⟨ending, split⟩ := begins
  refine ⟨ending ++ line.ending ++ below.flatMap full, ?_⟩
  rw [← flatMap_full_ofText text, lines, List.flatMap_append, List.flatMap_cons, full, ← split]
  simp only [List.append_assoc]

/-- **The lines above a place** are as many as the breaks before it. -/
theorem length_above (lines : ofText text = above ++ line :: below)
    (begins : begun <+: line.content) :
    above.length = allBreaks (above.flatMap full ++ begun) := by
  induction text generalizing above with
  | nil => simp at lines
  | cons c text ih =>
    cases above with
    | nil =>
      have own : line.IsLine := isLine_of_mem_ofText (lines ▸ List.mem_append_right _
        (List.mem_cons_self ..))
      rw [List.flatMap_nil, List.nil_append,
        allBreaks_of_unbroken fun c mem => own.unbroken c (begins.subset mem)]
      rfl
    | cons first above =>
      rw [ofText_cons, List.cons_append] at lines
      cases breaks : isLineBreak c with
      | false =>
        -- the character stands on the first line
        rw [push_of_not_break breaks] at lines
        cases before : ofText text with
        | nil => simp [before, consTo] at lines
        | cons second rest =>
          rw [before, consTo] at lines
          obtain ⟨rfl, rfl⟩ := List.cons.inj lines
          have counted := @ih (second :: above) before
          have same : (⟨c :: second.content, second.ending⟩ :: above).flatMap full ++ begun =
              c :: ((second :: above).flatMap full ++ begun) := rfl
          have apart : c = '\r' → ((second :: above).flatMap full ++ begun).head? ≠ some '\n' := by
            rintro rfl
            exact absurd breaks (by decide)
          rw [same, allBreaks_cons apart, ← counted, breaks]
          rfl
      | true =>
        by_cases joined : c = '\r' ∧ (ofText text).head? = some loneFeed
        · -- the carriage return joins the line feed that is the first line
          rw [push, if_pos breaks, if_pos joined] at lines
          obtain ⟨rfl, others⟩ := List.cons.inj lines
          obtain ⟨rest, before⟩ := List.head?_eq_some_iff.1 joined.2
          rw [before, List.tail_cons] at others
          subst others
          have counted := @ih (loneFeed :: above) before
          have same : (⟨[], ['\r', '\n']⟩ :: above).flatMap full ++ begun =
              '\r' :: '\n' :: (above.flatMap full ++ begun) := rfl
          rw [same, allBreaks_return_feed]
          exact counted
        · -- the break is a line of its own
          rw [push, if_pos breaks, if_neg joined] at lines
          obtain ⟨rfl, before⟩ := List.cons.inj lines
          have apart : c = '\r' → (above.flatMap full ++ begun).head? ≠ some '\n' := by
            intro carriage head
            obtain ⟨rest, split⟩ := isPrefix_of_ofText before begins
            have feed : text.head? = some '\n' := by
              rw [← split]
              rw [List.head?_append, head, Option.some_or]
            exact joined ⟨carriage, head?_ofText feed⟩
          have same : (⟨[], [c]⟩ :: above).flatMap full ++ begun =
              c :: (above.flatMap full ++ begun) := rfl
          rw [same, allBreaks_cons apart, ← ih before, breaks]
          rfl

end Line

namespace LanguageServer

open Line

/-- Whether a diagnostic stands directly behind a text in a document: it tells the fault of a line,
and the text is what the document has before the diagnostic's first column. -/
def Diagnostic.StandsBehind (diagnostic : Diagnostic) (before : List Char)
    (document : String) : Prop :=
  ∃ above line below, ofText document.toList = above ++ line :: below ∧ line.IsFaulty ∧
    diagnostic.Tells above.length line ∧
    before = above.flatMap full ++ line.content.take diagnostic.range.start.toNat

theorem Describes.exists_standsBehind {diagnostics : List Diagnostic} {document : String}
    (h : Describes diagnostics document) {diagnostic : Diagnostic} (mem : diagnostic ∈ diagnostics) :
    ∃ before, diagnostic.StandsBehind before document := by
  obtain ⟨number, line, found, faulty, tells⟩ := h.sound diagnostic mem
  obtain ⟨above, below, lines, rfl⟩ := exists_split_of_getElem? found
  exact ⟨_, above, line, below, lines, faulty, tells, rfl⟩

/-- The number of a diagnostic's line counts the breaks before it, of either kind. -/
theorem Diagnostic.StandsBehind.line_eq {diagnostic : Diagnostic} {before : List Char}
    {document : String} (h : diagnostic.StandsBehind before document) :
    diagnostic.range.line = editorBreaks before + otherBreaks before := by
  obtain ⟨above, line, below, lines, -, tells, rfl⟩ := h
  rw [tells.number, length_above lines (List.take_prefix _ _)]
  rfl

/-- A number that counts all breaks is the editor's where there are no others. -/
theorem Diagnostic.StandsBehind.line_eq_editorBreaks_iff {diagnostic : Diagnostic}
    {before : List Char} {document : String} (h : diagnostic.StandsBehind before document) :
    diagnostic.range.line = editorBreaks before ↔
      ∀ c ∈ before, isLineBreak c = true → c = '\n' ∨ c = '\r' := by
  rw [h.line_eq, ← otherBreaks_eq_zero_iff]
  omega

/-- **The numbers of published lines.**  Every diagnostic that an event publishes stands in the
current text of its document, and the number of its line counts the breaks before it: those that an
editor counts, and the others.  So it is the editor's number exactly where no other break stands
before it. -/
theorem handle_numbering (documents : Documents) (event : Event) :
    ∃ diagnostics,
      handle documents event = .ok ([⟨event.uri, diagnostics⟩], documents.after event) ∧
      ∀ diagnostic ∈ diagnostics, ∃ before,
        diagnostic.StandsBehind before
          (event.texts.getLast?.getD (documents.textOf event.uri)) ∧
        diagnostic.range.line = editorBreaks before + otherBreaks before ∧
        (diagnostic.range.line = editorBreaks before ↔
          ∀ c ∈ before, isLineBreak c = true → c = '\n' ∨ c = '\r') := by
  have current := documents.textOf_after event event.uri
  rw [if_pos rfl] at current
  obtain ⟨diagnostics, diagnosed, describes⟩ :=
    exists_diagnose ((documents.after event).textOf event.uri)
  refine ⟨diagnostics, by rw [handle, diagnosed]; rfl, fun diagnostic mem => ?_⟩
  rw [current] at describes
  obtain ⟨before, stands⟩ := describes.exists_standsBehind mem
  exact ⟨before, stands, stands.line_eq, stands.line_eq_editorBreaks_iff⟩

/-- A form feed in a comment moves the fault below it one line down. -/
theorem not_forall_line_eq_editorBreaks :
    ¬∀ documents event publications later, handle documents event = .ok (publications, later) →
      ∀ publication ∈ publications, ∀ diagnostic ∈ publication.diagnostics, ∀ before,
        diagnostic.StandsBehind before
          (event.texts.getLast?.getD (documents.textOf event.uri)) →
        diagnostic.range.line = editorBreaks before := by
  intro h
  obtain ⟨diagnostics, diagnosed, describes⟩ := exists_diagnose "#\x0c\n)"
  have handled : handle [] (.opened "a" "#\x0c\n)") =
      .ok ([⟨"a", diagnostics⟩], Documents.after [] (.opened "a" "#\x0c\n)")) := by
    have current : (Documents.after [] (.opened "a" "#\x0c\n)")).textOf "a" = "#\x0c\n)" := rfl
    rw [handle, Event.uri, current, diagnosed]
    rfl
  have lines : ofText "#\x0c\n)".toList =
      [⟨['#'], ['\x0c']⟩, ⟨[], ['\n']⟩] ++ ⟨[')'], []⟩ :: [] := rfl
  have found : (ofText "#\x0c\n)".toList)[2]? = some ⟨[')'], []⟩ := rfl
  have rejected : evaluate (Line.text ⟨[')'], []⟩) = .error
      (.rejected ⟨.unbalanced, 0, 1, ")", none⟩ (.arrangement ⟨.unbalanced, some 0⟩)) :=
    evaluate_closeParen
  have faulty : Line.IsFaulty ⟨[')'], []⟩ := by
    have evaluates : ¬Calculator.isSkipped true [')'] = true := by decide
    rw [@Calculator.isSkipped_eq_true_iff true ⟨[')'], []⟩, not_or] at evaluates
    refine ⟨evaluates.1, fun comment => evaluates.2 ⟨rfl, comment⟩, fun value evaluated => ?_⟩
    exact absurd (evaluated.symm.trans rejected) (by simp)
  obtain ⟨diagnostic, mem, tells⟩ := describes.complete 2 _ found faulty
  have stands : diagnostic.StandsBehind _ "#\x0c\n)" :=
    ⟨_, _, _, lines, faulty, tells, rfl⟩
  have number := h _ _ _ _ handled _ (List.mem_singleton_self _) diagnostic mem _ stands
  rw [stands.line_eq_editorBreaks_iff] at number
  exact absurd (number '\x0c' (by simp [full]) rfl) (by decide)

end LanguageServer

end Reckon
