import Mathlib.Data.List.Forall2
import Reckon.Proofs.Arrangement.Respacing
import Reckon.Proofs.LineResults
import Reckon.Proofs.Rejection.Place
import Reckon.Proofs.Text.Line

/-!
# The results of a document, in parts and as a whole

The results of a document are determined by its lines (`evaluateLines_eq_ok_iff`).  Two things
follow.

A document that is complete can be evaluated apart from what stands behind it: the results are those
of the two parts, with the numbers of the second moved down by the number of lines of the first
(`evaluateLines_append`).

And it costs no value to pass lines over.  A blank line is not read further than its first character
that the lexer does not know, or it has no tokens but blanks; in a comment the `#` at the latest is
unknown.  So neither has a value (`exists_rejected_of_passedOver`), and the values of the results are
the values of all lines, whether comments are recognised or not
(`filterMap_value?_of_evaluateLines`).
-/

namespace Reckon

/-! ## Results are determined by requests -/

theorem LineResult.IsOf.unique {request : Request} {result other : LineResult}
    (h : result.IsOf request) (h' : other.IsOf request) : result = other := by
  obtain ⟨line, text, outcome⟩ := result
  obtain ⟨line', text', outcome'⟩ := other
  have number : line = line' := h.number.trans h'.number.symm
  have source : text = text' := h.source.trans h'.source.symm
  have same : outcome = outcome' := h.outcome.unique h'.outcome
  rw [number, source, same]

theorem AreResultsOf.unique {requests : List Request} {results others : List LineResult}
    (h : AreResultsOf requests results) (h' : AreResultsOf requests others) : results = others := by
  have unique : Relator.RightUnique fun (request : Request) (result : LineResult) =>
      result.IsOf request := fun _ _ _ => LineResult.IsOf.unique
  exact List.right_unique_forall₂' unique h h'

/-- The results of a document are the results of the requests that its lines make. -/
theorem evaluateLines_eq_ok_iff {document : String} {comments : Bool}
    {results : List LineResult} :
    evaluateLines document comments = .ok results ↔
      AreResultsOf (lineRequests document comments) results := by
  obtain ⟨others, evaluated, related⟩ := exists_evaluateLines document comments
  constructor
  · intro h
    cases evaluated.symm.trans h
    exact related
  · intro h
    rw [evaluated, related.unique h]

/-! ## Documents in two parts -/

/-- A result with its line further down. -/
def LineResult.movedDown (count : Nat) (result : LineResult) : LineResult :=
  { result with line := result.line + count }

/-- A request with its line further down. -/
def Request.movedDown (count : Nat) (request : Request) : Request :=
  (request.1, request.2 + count)

theorem LineResult.IsOf.movedDown {request : Request} {result : LineResult}
    (h : result.IsOf request) (count : Nat) :
    (result.movedDown count).IsOf (request.movedDown count) :=
  ⟨congrArg (fun line => line + (count : Int)) h.number, h.source, h.outcome⟩

/-- What is requested of a document is requested of its two parts. -/
theorem lineRequests_append {front back : String} (complete : Line.IsComplete front.toList)
    (whole : ¬Line.PartsBreak front.toList back.toList) (comments : Bool) :
    lineRequests (front ++ back) comments = lineRequests front comments ++
      (lineRequests back comments).map (Request.movedDown (Line.ofText front.toList).length) := by
  have numbered : (Line.ofText back.toList).zipIdx (1 + (Line.ofText front.toList).length) =
      ((Line.ofText back.toList).zipIdx 1).map fun numbered =>
        (numbered.1, numbered.2 + (Line.ofText front.toList).length) := by
    rw [Nat.add_comm, List.zipIdx_eq_map_add, List.zipIdx_eq_map_add (i := 1), List.map_map]
    refine List.map_congr_left fun numbered _ => ?_
    obtain ⟨line, number⟩ := numbered
    show (line, (Line.ofText front.toList).length + 1 + number) =
      (line, 1 + number + (Line.ofText front.toList).length)
    rw [Prod.mk.injEq]
    exact ⟨rfl, by omega⟩
  unfold lineRequests Calculator.linesToEvaluate
  rw [String.toList_append, Line.ofText_append complete whole, List.zipIdx_append, numbered,
    List.filter_append, List.filter_map, List.map_append, List.map_map, List.map_map]
  rfl

/-- **A complete document and what stands behind it are evaluated apart.** -/
theorem evaluateLines_append {front back : String} (complete : Line.IsComplete front.toList)
    (whole : ¬Line.PartsBreak front.toList back.toList) (comments : Bool) :
    ∃ before behind, evaluateLines front comments = .ok before ∧
      evaluateLines back comments = .ok behind ∧
      evaluateLines (front ++ back) comments =
        .ok (before ++ behind.map (LineResult.movedDown (Line.ofText front.toList).length)) := by
  obtain ⟨before, evaluated, related⟩ := exists_evaluateLines front comments
  obtain ⟨behind, evaluated', related'⟩ := exists_evaluateLines back comments
  refine ⟨before, behind, evaluated, evaluated', ?_⟩
  rw [evaluateLines_eq_ok_iff, lineRequests_append complete whole]
  have moved : AreResultsOf
      ((lineRequests back comments).map (Request.movedDown (Line.ofText front.toList).length))
      (behind.map (LineResult.movedDown (Line.ofText front.toList).length)) := by
    refine List.forall₂_map_left_iff.2 (List.forall₂_map_right_iff.2 ?_)
    exact related'.imp fun _ _ isOf => isOf.movedDown _
  exact List.rel_append related moved

/-! ## Lines without a value -/

/-- A blank character that a token may begin with is one of the blanks between tokens. -/
theorem kindBeginningWith?_of_isBlank {c : Char} {kind : TokenKind} (blank : isBlank c = true)
    (tells : kindBeginningWith? c = some kind) : kind = .space := by
  have digit : ¬c.isDigit = true := by
    intro digit
    have bounds := Numeral.toNat_of_isDigit digit
    simp only [isBlank, blankRanges, List.any_cons, List.any_nil, Bool.or_false, Bool.or_eq_true,
      Bool.and_eq_true, decide_eq_true_eq] at blank
    omega
  have other : ∀ d : Char, isBlank d = false → c ≠ d := by
    rintro d solid rfl
    exact absurd (blank.symm.trans solid) (by simp)
  rw [kindBeginningWith?, if_neg digit, if_neg (other '+' rfl), if_neg (other '-' rfl),
    if_neg (other '*' rfl), if_neg (other '/' rfl), if_neg (other '^' rfl), if_neg (other '(' rfl),
    if_neg (other ')' rfl)] at tells
  split at tells
  · exact (Option.some.inj tells).symm
  · exact absurd tells (by simp)

/-- A text of blanks is empty for the calculator, or has a blank that it does not know. -/
theorem exists_rejected_of_isBlank {text : String} (blank : ∀ c ∈ text.toList, isBlank c = true) :
    ∃ rejection cause, evaluate text = .error (.rejected rejection cause) ∧
      (rejection.reason = .emptyExpression ∨ rejection.reason = .unknownSymbol) := by
  rcases tokens_or_unknownSymbol text with
    ⟨tokens, spelled, rfl⟩ | ⟨rejection, cause, rejected, unknown⟩
  · have spaces : ∀ token ∈ tokens, token.isSpace = true := by
      intro token mem
      obtain ⟨c, rest, begins, tells⟩ := (spelled.lexeme token mem).exists_cons
      have inside : c ∈ (Token.join tokens).toList :=
        Token.mem_join_iff.2 ⟨token, mem, by rw [begins]; exact List.mem_cons_self ..⟩
      exact Token.isSpace_eq_true_iff.2 (kindBeginningWith?_of_isBlank (blank c inside) tells)
    have checked : Arrangement.check tokens = .error ⟨.emptyExpression, none⟩ := by
      rw [Arrangement.check, Arrangement.scan_of_isSpace spaces]
      rfl
    exact ⟨_, _, evaluate_eq_rejected_iff.2 (.unplaced spelled checked rfl), .inl rfl⟩
  · exact ⟨rejection, cause, rejected, .inr unknown⟩

/-- A line that may be passed over is rejected, because there is nothing on it or a symbol that the
calculator does not know. -/
theorem exists_rejected_of_passedOver {line : Line} (h : line.IsBlank ∨ line.IsComment) :
    ∃ rejection cause, evaluate line.text = .error (.rejected rejection cause) ∧
      (rejection.reason = .emptyExpression ∨ rejection.reason = .unknownSymbol) := by
  have characters : line.text.toList = line.content := String.toList_ofList
  rcases h with blank | ⟨indent, rest, content, _⟩
  · exact exists_rejected_of_isBlank (characters ▸ blank)
  · have sharp : '#' ∈ line.text.toList := by
      rw [characters, content]
      exact List.mem_append_right _ (List.mem_cons_self ..)
    obtain ⟨rejection, cause, rejected, unknown⟩ :=
      exists_rejected_of_mem sharp rfl (by decide)
    exact ⟨rejection, cause, rejected, .inr unknown⟩

/-! ## Values -/

/-- The value of a request with the number of its line, if there is one. -/
def Request.value? (request : Request) : Option (Int × Binary64) :=
  match evaluate request.1 with
  | .ok value => some (request.2, value)
  | .error _ => none

/-- The value of a result with the number of its line, if there is one. -/
def LineResult.value? (result : LineResult) : Option (Int × Binary64) :=
  match result.outcome with
  | .ok value => some (result.line, value)
  | .error _ => none

theorem LineResult.IsOf.value?_eq {request : Request} {result : LineResult}
    (h : result.IsOf request) : result.value? = request.value? := by
  obtain ⟨number, -, comes⟩ := h
  unfold value? Request.value?
  generalize result.outcome = outcome at comes
  cases comes with
  | value evaluated => rw [evaluated, number]
  | rejection rejected => rw [rejected]

theorem filterMap_value?_of_areResultsOf {requests : List Request} {results : List LineResult}
    (h : AreResultsOf requests results) :
    results.filterMap LineResult.value? = requests.filterMap Request.value? := by
  induction h with
  | nil => rfl
  | cons first _ ih => rw [List.filterMap_cons, List.filterMap_cons, first.value?_eq, ih]

/-- The values of all lines of a document, with their numbers. -/
def lineValues (document : String) : List (Int × Binary64) :=
  ((Line.ofText document.toList).zipIdx 1).filterMap fun numbered =>
    Request.value? (numbered.1.text, numbered.2)

/-- **To pass lines over costs no value.**  The values of the results are those of all lines. -/
theorem filterMap_value?_of_evaluateLines {document : String} {comments : Bool}
    {results : List LineResult} (h : evaluateLines document comments = .ok results) :
    results.filterMap LineResult.value? = lineValues document := by
  rw [filterMap_value?_of_areResultsOf (evaluateLines_eq_ok_iff.1 h), lineRequests,
    List.filterMap_map, Calculator.linesToEvaluate, List.filterMap_filter, lineValues]
  refine List.filterMap_congr fun numbered _ => ?_
  obtain ⟨line, number⟩ := numbered
  show (if (!Calculator.isSkipped comments line.content) = true then
    Request.value? (line.text, number) else none) = Request.value? (line.text, number)
  cases skipped : Calculator.isSkipped comments line.content with
  | false => rfl
  | true =>
    obtain ⟨rejection, cause, rejected, -⟩ := exists_rejected_of_passedOver
      ((Calculator.isSkipped_eq_true_iff.1 skipped).imp_right And.right)
    have none : Request.value? (line.text, number) = none := by rw [Request.value?, rejected]
    exact none.symm

/-! ## The main statement -/

/-- Whether results are those of a document line by line.  Their numbers increase, and each is the
result of the line that it is numbered for.  The lines without a result are those that are passed
over, and each of them would be rejected: there is nothing on it, or a symbol that the calculator
does not know. -/
structure AreResultsOfLines (document : String) (comments : Bool) (results : List LineResult) :
    Prop where
  increasing : results.Pairwise fun a b => a.line < b.line
  own : ∀ result ∈ results, ∃ (index : Nat) (line : Line),
    (Line.ofText document.toList)[index]? = some line ∧
      result.IsOf (line.text, (index : Int) + 1)
  passedOver : ∀ (index : Nat) (line : Line), (Line.ofText document.toList)[index]? = some line →
    ((∀ result ∈ results, result.line ≠ (index : Int) + 1) ↔
      line.IsBlank ∨ comments = true ∧ line.IsComment)
  rejected : ∀ (index : Nat) (line : Line), (Line.ofText document.toList)[index]? = some line →
    (∀ result ∈ results, result.line ≠ (index : Int) + 1) →
      ∃ rejection, Calculator.standard.evalLine line.text ((index : Int) + 1) =
          .ok ⟨(index : Int) + 1, line.text, .error rejection⟩ ∧
        (rejection.reason = .emptyExpression ∨ rejection.reason = .unknownSymbol)

theorem AreResultsOf.areResultsOfLines {document : String} {comments : Bool}
    {results : List LineResult} (h : AreResultsOf (lineRequests document comments) results) :
    AreResultsOfLines document comments results := by
  have passedOver : ∀ (index : Nat) (line : Line),
      (Line.ofText document.toList)[index]? = some line →
        ((∀ result ∈ results, result.line ≠ (index : Int) + 1) ↔
          line.IsBlank ∨ comments = true ∧ line.IsComment) := by
    intro index line found
    constructor
    · intro none
      by_contra solid
      rw [not_or] at solid
      obtain ⟨result, mem, isOf⟩ := exists_mem_of_line h found solid.1 solid.2
      exact none result mem isOf.number
    · intro passed result mem same
      obtain ⟨index', line', found', solid, noComment, isOf⟩ := exists_line_of_mem h mem
      have number : result.line = (index' : Int) + 1 := isOf.number
      have place : index' = index := by omega
      subst place
      cases found.symm.trans found'
      exact passed.elim solid noComment
  refine ⟨pairwise_of_areResultsOf h, ?_, passedOver, ?_⟩
  · intro result mem
    obtain ⟨index, line, found, _, _, isOf⟩ := exists_line_of_mem h mem
    exact ⟨index, line, found, isOf⟩
  · intro index line found none
    obtain ⟨rejection, cause, rejected, reason⟩ := exists_rejected_of_passedOver
      (((passedOver index line found).1 none).imp_right And.right)
    exact ⟨rejection, evalLine_of_rejected rejected _, reason⟩

/-- **The results of documents.**  A complete document is evaluated apart from what stands behind
it, unless a break is parted; every document has its results line by line; and their values do not
depend on whether comments are recognised. -/
theorem evaluateLines_lineByLine :
    (∀ front back comments, Line.IsComplete front.toList →
      ¬Line.PartsBreak front.toList back.toList →
        ∃ before behind, evaluateLines front comments = .ok before ∧
          evaluateLines back comments = .ok behind ∧
          evaluateLines (front ++ back) comments = .ok
            (before ++ behind.map (LineResult.movedDown (Line.ofText front.toList).length))) ∧
    (∀ document comments, ∃ results, evaluateLines document comments = .ok results ∧
      AreResultsOfLines document comments results) ∧
    ∀ document, ∃ results others, evaluateLines document true = .ok results ∧
      evaluateLines document false = .ok others ∧
      results.filterMap LineResult.value? = others.filterMap LineResult.value? := by
  refine ⟨fun _ _ comments complete whole => evaluateLines_append complete whole comments,
    fun document comments => ?_, fun document => ?_⟩
  · obtain ⟨results, evaluated, related⟩ := exists_evaluateLines document comments
    exact ⟨results, evaluated, related.areResultsOfLines⟩
  · obtain ⟨results, evaluated, -⟩ := exists_evaluateLines document true
    obtain ⟨others, evaluated', -⟩ := exists_evaluateLines document false
    refine ⟨results, others, evaluated, evaluated', ?_⟩
    rw [filterMap_value?_of_evaluateLines evaluated, filterMap_value?_of_evaluateLines evaluated']

/-- Behind a comment that ends with both characters the results of a document are moved down by one
line, although it begins with a line feed; and the comment would have been rejected. -/
theorem evaluateLines_lineByLine_behindComment :
    Line.IsComplete "#\r\n".toList ∧ ¬Line.PartsBreak "#\r\n".toList "\n)".toList ∧
    (∃ behind, evaluateLines "\n)" true = .ok behind ∧
      evaluateLines ("#\r\n" ++ "\n)") true = .ok (behind.map (LineResult.movedDown 1))) ∧
    ∃ rejection, Calculator.standard.evalLine "#" 1 = .ok ⟨1, "#", .error rejection⟩ ∧
      (rejection.reason = .emptyExpression ∨ rejection.reason = .unknownSymbol) := by
  have complete : Line.IsComplete "#\r\n".toList := by
    intro c mem
    cases Option.some.inj mem
    rfl
  have whole : ¬Line.PartsBreak "#\r\n".toList "\n)".toList := fun parted =>
    absurd parted.1 (by decide)
  have none : evaluateLines "#\r\n" true = .ok [] := rfl
  obtain ⟨inParts, lineByLine, -⟩ := evaluateLines_lineByLine
  refine ⟨complete, whole, ?_, ?_⟩
  · obtain ⟨before, behind, evaluated, evaluated', all⟩ := inParts _ _ true complete whole
    cases none.symm.trans evaluated
    exact ⟨behind, evaluated', all⟩
  · obtain ⟨results, evaluated, lines⟩ := lineByLine "#\r\n" true
    cases none.symm.trans evaluated
    exact lines.rejected 0 ⟨['#'], ['\r', '\n']⟩ rfl (by simp)

end Reckon
