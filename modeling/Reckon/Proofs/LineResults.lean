import Mathlib.Data.List.Forall2
import Reckon.Proofs.Evaluation

/-!
# The results for the lines of a document

Evaluating a text on its own always gives a result, and so does evaluating a list of texts or the
lines of a document.  The results are related one by one to what was requested, `AreResultsOf`: none
is missing, none is there twice, and the order is kept.

Which lines of a document are evaluated is said by their characters.  A line is passed over where
it is blank, or where `#` is the first character that is not and comments are recognised
(`isSkipped_eq_true_iff`); every other line is evaluated under its own number, counted from one
(`mem_linesToEvaluate_iff`).
-/

namespace Reckon

/-! ## Results of texts -/

/-- What evaluating a text comes to: a value, or a rejection without its cause. -/
inductive ComesTo (text : String) : Except Rejection Binary64 → Prop where
  | value {value : Binary64} (evaluated : evaluate text = .ok value) : ComesTo text (.ok value)
  | rejection {rejection : Rejection} {cause : Cause}
      (rejected : evaluate text = .error (.rejected rejection cause)) :
      ComesTo text (.error rejection)

/-- A text comes to one thing only. -/
theorem ComesTo.unique {text : String} {outcome other : Except Rejection Binary64}
    (h : ComesTo text outcome) (h' : ComesTo text other) : outcome = other := by
  cases h with
  | value evaluated =>
    cases h' with
    | value evaluated' =>
      cases evaluated.symm.trans evaluated'
      rfl
    | rejection rejected => cases evaluated.symm.trans rejected
  | rejection rejected =>
    cases h' with
    | value evaluated => cases evaluated.symm.trans rejected
    | rejection rejected' =>
      cases rejected.symm.trans rejected'
      rfl

/-- What is to be evaluated: a text, and the number of its line. -/
abbrev Request : Type := String × Int

/-- Whether a result is that of a request. -/
structure LineResult.IsOf (result : LineResult) (request : Request) : Prop where
  number : result.line = request.2
  source : result.text = request.1
  outcome : ComesTo request.1 result.outcome

theorem LineResult.IsOf.outcome_of_value {result : LineResult} {request : Request}
    (h : result.IsOf request) {value : Binary64} (evaluated : evaluate request.1 = .ok value) :
    result.outcome = .ok value :=
  h.outcome.unique (.value evaluated)

theorem LineResult.IsOf.outcome_of_rejected {result : LineResult} {request : Request}
    (h : result.IsOf request) {rejection : Rejection} {cause : Cause}
    (rejected : evaluate request.1 = .error (.rejected rejection cause)) :
    result.outcome = .error rejection :=
  h.outcome.unique (.rejection rejected)

/-- Whether results are those of requests, one by one. -/
def AreResultsOf (requests : List Request) (results : List LineResult) : Prop :=
  List.Forall₂ (fun request result => LineResult.IsOf result request) requests results

/-- Every text comes to something. -/
theorem exists_comesTo (text : String) : ∃ outcome, ComesTo text outcome := by
  rcases Calculator.parse_standard_cases text with
    ⟨tree, parsed⟩ | ⟨rejection, cause, rejected⟩
  · obtain ⟨value, calculated⟩ := tree.exists_calculate
    have evaluated : evaluate text = .ok value := by
      rw [evaluate, Calculator.eval, parsed]
      simp only [bind, Except.bind, calculated]
      rfl
    exact ⟨_, .value evaluated⟩
  · have failed : evaluate text = .error (.rejected rejection cause) := by
      rw [evaluate, Calculator.eval, rejected]
      rfl
    exact ⟨_, .rejection failed⟩

theorem evalLine_of_value {text : String} {value : Binary64} (h : evaluate text = .ok value)
    (number : Int) : Calculator.standard.evalLine text number = .ok ⟨number, text, .ok value⟩ := by
  have evaluated : Calculator.standard.eval text = .ok value := h
  rw [Calculator.evalLine, evaluated]

theorem evalLine_of_rejected {text : String} {rejection : Rejection} {cause : Cause}
    (h : evaluate text = .error (.rejected rejection cause)) (number : Int) :
    Calculator.standard.evalLine text number = .ok ⟨number, text, .error rejection⟩ := by
  have rejected : Calculator.standard.eval text = .error (.rejected rejection cause) := h
  rw [Calculator.evalLine, rejected]

/-- Every text has a result. -/
theorem exists_evalLine (text : String) (line : Int) :
    ∃ result, Calculator.standard.evalLine text line = .ok result ∧ result.IsOf (text, line) := by
  obtain ⟨outcome, comes⟩ := exists_comesTo text
  refine ⟨⟨line, text, outcome⟩, ?_, rfl, rfl, comes⟩
  cases comes with
  | value evaluated => exact evalLine_of_value evaluated line
  | rejection rejected => exact evalLine_of_rejected rejected line

/-! ## Results of several texts -/

section Several

variable {α β ε : Type} {R : α → β → Prop}

/-- Steps that all succeed succeed in turn, each with its own result. -/
theorem exists_mapM_of_forall {step : α → Except ε β}
    (total : ∀ a, ∃ b, step a = .ok b ∧ R a b) (items : List α) :
    ∃ results, items.mapM step = .ok results ∧ List.Forall₂ R items results := by
  induction items with
  | nil => exact ⟨[], rfl, .nil⟩
  | cons item rest ih =>
    obtain ⟨first, stepped, related⟩ := total item
    obtain ⟨results, ran, others⟩ := ih
    refine ⟨first :: results, ?_, .cons related others⟩
    rw [List.mapM_cons, stepped, ran]
    rfl

theorem exists_mem_of_forall₂_left {items : List α} {results : List β}
    (h : List.Forall₂ R items results) {item : α} (mem : item ∈ items) :
    ∃ result ∈ results, R item result := by
  induction h with
  | nil => exact absurd mem List.not_mem_nil
  | cons first _ ih =>
    rcases List.mem_cons.1 mem with rfl | mem
    · exact ⟨_, List.mem_cons_self .., first⟩
    · obtain ⟨result, here, related⟩ := ih mem
      exact ⟨result, List.mem_cons_of_mem _ here, related⟩

theorem exists_mem_of_forall₂_right {items : List α} {results : List β}
    (h : List.Forall₂ R items results) {result : β} (mem : result ∈ results) :
    ∃ item ∈ items, R item result :=
  exists_mem_of_forall₂_left h.flip mem

end Several

/-- The requests that the lines of a document make. -/
def lineRequests (document : String) (comments : Bool) : List Request :=
  (Calculator.linesToEvaluate document comments).map fun (line, number) => (line.text, number)

/-- **Every line that is not passed over has its result**, in the order of the lines. -/
theorem exists_evaluateLines (document : String) (comments : Bool) :
    ∃ results, evaluateLines document comments = .ok results ∧
      AreResultsOf (lineRequests document comments) results := by
  have total : ∀ numbered : Line × Nat, ∃ result,
      Calculator.standard.evalLine numbered.1.text numbered.2 = .ok result ∧
        result.IsOf (numbered.1.text, numbered.2) :=
    fun numbered => exists_evalLine numbered.1.text numbered.2
  obtain ⟨results, evaluated, related⟩ :=
    exists_mapM_of_forall total (Calculator.linesToEvaluate document comments)
  exact ⟨results, evaluated, List.forall₂_map_left_iff.2 related⟩

/-! ## Which lines are evaluated -/

/-- Whether nothing but blanks stands on a line. -/
def Line.IsBlank (line : Line) : Prop := ∀ c ∈ line.content, isBlank c = true

/-- Whether the first character of a line that is not blank is `#`. -/
def Line.IsComment (line : Line) : Prop :=
  ∃ indent rest, line.content = indent ++ '#' :: rest ∧ ∀ c ∈ indent, isBlank c = true

namespace Calculator

theorem isSkipped_eq_true_iff {comments : Bool} {line : Line} :
    isSkipped comments line.content = true ↔
      line.IsBlank ∨ comments = true ∧ line.IsComment := by
  have split : line.content.takeWhile isBlank ++ line.content.dropWhile isBlank = line.content :=
    List.takeWhile_append_dropWhile
  have indent : ∀ c ∈ line.content.takeWhile isBlank, isBlank c = true :=
    List.all_eq_true.1 List.all_takeWhile
  unfold isSkipped
  cases rest : line.content.dropWhile isBlank with
  | nil =>
    rw [rest, List.append_nil] at split
    rw [split] at indent
    exact iff_of_true rfl (.inl indent)
  | cons c rest' =>
    rw [rest] at split
    have solid : isBlank c = false := by
      have outside := List.head?_dropWhile_not isBlank line.content
      rwa [rest] at outside
    constructor
    · intro h
      obtain ⟨recognised, sharp⟩ := Bool.and_eq_true_iff.1 h
      cases eq_of_beq sharp
      exact .inr ⟨recognised, _, rest', split.symm, indent⟩
    · rintro (blank | ⟨recognised, indent', rest'', content, blank⟩)
      · have here : c ∈ line.content := split ▸ List.mem_append_right _ (List.mem_cons_self ..)
        exact absurd ((blank c here).symm.trans solid) (by simp)
      · rw [content, List.dropWhile_append_of_pos blank] at rest
        cases rest
        rw [recognised]
        rfl

/-- The lines that are evaluated, with their numbers. -/
theorem mem_linesToEvaluate_iff {document : String} {comments : Bool} {line : Line}
    {number : Nat} :
    (line, number) ∈ linesToEvaluate document comments ↔
      1 ≤ number ∧ (Line.ofText document.toList)[number - 1]? = some line ∧
        ¬line.IsBlank ∧ ¬(comments = true ∧ line.IsComment) := by
  rw [linesToEvaluate, List.mem_filter, List.mk_mem_zipIdx_iff_le_and_getElem?_sub]
  simp only [Bool.not_eq_true', ← Bool.not_eq_true, isSkipped_eq_true_iff, not_or, and_assoc]

/-- Later lines have greater numbers. -/
theorem pairwise_linesToEvaluate (document : String) (comments : Bool) :
    (linesToEvaluate document comments).Pairwise fun a b => a.2 < b.2 := by
  have numbers : ((Line.ofText document.toList).zipIdx 1).Pairwise fun a b => a.2 < b.2 := by
    rw [← List.pairwise_map, List.zipIdx_map_snd]
    exact List.pairwise_lt_range'
  exact numbers.filter _

end Calculator

theorem map_line_of_areResultsOf {requests : List Request} {results : List LineResult}
    (h : AreResultsOf requests results) :
    results.map LineResult.line = requests.map Prod.snd := by
  induction h with
  | nil => rfl
  | cons first _ ih => rw [List.map_cons, List.map_cons, ih, first.number]

/-- Later results have greater numbers. -/
theorem pairwise_of_areResultsOf {document : String} {comments : Bool} {results : List LineResult}
    (h : AreResultsOf (lineRequests document comments) results) :
    results.Pairwise fun a b => a.line < b.line := by
  rw [← List.pairwise_map, map_line_of_areResultsOf h, lineRequests, List.map_map,
    List.pairwise_map]
  exact (Calculator.pairwise_linesToEvaluate document comments).imp Int.ofNat_lt.2

/-- A result belongs to a line that is not passed over, and has its number. -/
theorem exists_line_of_mem {document : String} {comments : Bool} {results : List LineResult}
    (h : AreResultsOf (lineRequests document comments) results) {result : LineResult}
    (mem : result ∈ results) :
    ∃ (index : Nat) (line : Line), (Line.ofText document.toList)[index]? = some line ∧
      ¬line.IsBlank ∧ ¬(comments = true ∧ line.IsComment) ∧
      result.IsOf (line.text, (index : Int) + 1) := by
  obtain ⟨request, requested, isOf⟩ := exists_mem_of_forall₂_right h mem
  obtain ⟨⟨line, number⟩, listed, rfl⟩ := List.mem_map.1 requested
  obtain ⟨positive, found, solid, noComment⟩ := Calculator.mem_linesToEvaluate_iff.1 listed
  obtain ⟨index, rfl⟩ := Nat.exists_eq_add_of_le' positive
  exact ⟨index, line, found, solid, noComment, isOf⟩

/-- A line that is not passed over has its result. -/
theorem exists_mem_of_line {document : String} {comments : Bool} {results : List LineResult}
    (h : AreResultsOf (lineRequests document comments) results) {index : Nat} {line : Line}
    (found : (Line.ofText document.toList)[index]? = some line) (solid : ¬line.IsBlank)
    (noComment : ¬(comments = true ∧ line.IsComment)) :
    ∃ result ∈ results, result.IsOf (line.text, (index : Int) + 1) := by
  have listed : (line, index + 1) ∈ Calculator.linesToEvaluate document comments :=
    Calculator.mem_linesToEvaluate_iff.2 ⟨Nat.le_add_left 1 index, found, solid, noComment⟩
  exact exists_mem_of_forall₂_left h (List.mem_map_of_mem listed)

end Reckon
