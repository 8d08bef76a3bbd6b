import Reckon.CommandLine.Run
import Reckon.Proofs.Expr.Leaves
import Reckon.Proofs.LineResults
import Reckon.Proofs.Rejection.Place

/-!
# What is reported

A report goes through the results in order.  Each is reported by its value or by its snippet, behind
what debugging shows of it.

Debugging does the work of a result once more, outside of everything that would answer for a
failure.  What the result came to tells that there is none: `exists_dumps`.  So reporting stops
early only at a result that cannot be printed.  This can only be for the precision, which is the
same for all of them.

There are thus two outcomes (`reportOn_cases`).  Either every request is answered, in turn and once,
and the exit code says whether one was rejected: `Report.Answers`.  Or the precision is not accepted
and there is a value to print.
-/

namespace Reckon

/-- A datum is printed in every precision that is accepted, and in no other. -/
theorem Binary64.display_eq_error_iff {x : Binary64} {precision : Int} {fault : PrecisionFault} :
    x.display precision = .error fault ↔ significantDigits precision = .error fault := by
  unfold display
  cases significantDigits precision with
  | error other => simp [Except.map]
  | ok count => simp [Except.map]

/-- Whether a request is met with a value. -/
def Request.HasValue (request : Request) : Prop := ∃ value, evaluate request.1 = .ok value

/-- Whether a request is met with a rejection. -/
def Request.Fails (request : Request) : Prop :=
  ∃ rejection cause, evaluate request.1 = .error (.rejected rejection cause)

namespace Calculator

theorem exists_parse_of_eval {calculator : Calculator} {source : String} {value : Binary64}
    (h : calculator.eval source = .ok value) : ∃ tree, calculator.parse source = .ok tree := by
  rw [eval] at h
  obtain ⟨tree, parsed, -⟩ := Assembly.exists_of_bind_eq_ok h
  exact ⟨tree, parsed⟩

theorem exists_tokenize_of_parse {calculator : Calculator} {source : String} {tree : Expr}
    (h : calculator.parse source = .ok tree) :
    ∃ tokens, calculator.tokenize source = .ok tokens := by
  rw [parse] at h
  obtain ⟨tokens, read, -⟩ := Assembly.exists_of_bind_eq_ok h
  exact ⟨tokens, read⟩

/-- Tokens that are well spelled are read from their text. -/
theorem tokenize_join {tokens : List Token} (spelled : Token.WellSpelled tokens) :
    standard.tokenize (Token.join tokens) = .ok tokens := by
  rw [tokenize, standard, tokenize_arithmeticRules_eq_ok_iff.2 ⟨spelled, rfl⟩]
  rfl

end Calculator

/-- A source that is rejected for another reason than an unknown symbol is read. -/
theorem Rejects.exists_tokenize {source : String} {rejection : Rejection} {cause : Cause}
    (h : Rejects source rejection cause) (known : rejection.reason ≠ .unknownSymbol) :
    ∃ tokens, Calculator.standard.tokenize source = .ok tokens := by
  cases h with
  | unknownSymbol => exact absurd rfl known
  | unplaced spelled => exact ⟨_, Calculator.tokenize_join spelled⟩
  | placed spelled => exact ⟨_, Calculator.tokenize_join spelled⟩

namespace CommandLine

/-! ## Emissions -/

/-- Whether an emission reports a result. -/
def Emission.isResult : Emission → Bool
  | value _ => true
  | snippet _ => true
  | _ => false

/-- Whether an emission is anything else than a trace. -/
def Emission.isPlain : Emission → Bool
  | trace _ => false
  | _ => true

/-- Whether emissions are some others with traces between them, where traces are asked for. -/
structure BesideTraces (options : Options) (emissions others : List Emission) : Prop where
  plain : emissions.filter Emission.isPlain = others
  quiet : options.verbose = false → emissions = others

namespace BesideTraces

variable {options : Options} {emissions emissions' others others' : List Emission}

theorem append (h : BesideTraces options emissions others)
    (h' : BesideTraces options emissions' others') :
    BesideTraces options (emissions ++ emissions') (others ++ others') := by
  constructor
  · rw [List.filter_append, h.plain, h'.plain]
  · intro quiet
    rw [h.quiet quiet, h'.quiet quiet]

theorem nil : BesideTraces options [] [] := ⟨rfl, fun _ => rfl⟩

theorem singleton {emission : Emission} (plain : emission.isPlain = true) :
    BesideTraces options [emission] [emission] :=
  ⟨List.filter_cons_of_pos plain, fun _ => rfl⟩

theorem shown (options : Options) (records : List Record) :
    BesideTraces options (shown options records) [] := by
  unfold CommandLine.shown
  split
  · next verbose =>
    refine ⟨List.filter_eq_nil_iff.2 fun emission mem => ?_, fun quiet => ?_⟩
    · obtain ⟨record, _, rfl⟩ := List.mem_map.1 mem
      exact Bool.false_ne_true
    · cases verbose.symm.trans quiet
  · exact nil

/-- No trace reports a result. -/
theorem filter_isResult (h : BesideTraces options emissions others) :
    emissions.filter Emission.isResult = others.filter Emission.isResult := by
  rw [← h.plain, List.filter_filter]
  congr 1
  ext emission
  cases emission <;> rfl

end BesideTraces

/-! ## Debugging -/

/-- What debugging shows of a request, beside traces: the tokens and the tree of a text that has a
value, the tokens of a text that is rejected, and nothing where they cannot be told. -/
inductive Dumps (request : Request) : List Emission → Prop where
  | value {value : Binary64} {tokens : List Token} {tree : Expr}
      (evaluated : evaluate request.1 = .ok value)
      (read : Calculator.standard.tokenize request.1 = .ok tokens)
      (parsed : Calculator.standard.parse request.1 = .ok tree) :
      Dumps request [.tokens (Token.listing tokens), .tree tree.outline]
  | unknownSymbol {rejection : Rejection} {cause : Cause}
      (rejected : evaluate request.1 = .error (.rejected rejection cause))
      (unknown : rejection.reason = .unknownSymbol) : Dumps request []
  | rejection {rejection : Rejection} {cause : Cause} {tokens : List Token}
      (rejected : evaluate request.1 = .error (.rejected rejection cause))
      (known : rejection.reason ≠ .unknownSymbol)
      (read : Calculator.standard.tokenize request.1 = .ok tokens) :
      Dumps request [.tokens (Token.listing tokens)]

theorem Dumps.unique {request : Request} {dump other : List Emission} (h : Dumps request dump)
    (h' : Dumps request other) : dump = other := by
  cases h with
  | value evaluated read parsed =>
    cases h' with
    | value _ read' parsed' =>
      cases read.symm.trans read'
      cases parsed.symm.trans parsed'
      rfl
    | unknownSymbol rejected => cases evaluated.symm.trans rejected
    | rejection rejected => cases evaluated.symm.trans rejected
  | unknownSymbol rejected unknown =>
    cases h' with
    | value evaluated => cases rejected.symm.trans evaluated
    | unknownSymbol => rfl
    | rejection rejected' known =>
      cases rejected.symm.trans rejected'
      exact absurd unknown known
  | rejection rejected known read =>
    cases h' with
    | value evaluated => cases rejected.symm.trans evaluated
    | unknownSymbol rejected' unknown =>
      cases rejected.symm.trans rejected'
      exact absurd unknown known
    | rejection _ _ read' =>
      cases read.symm.trans read'
      rfl

theorem Dumps.filter_isResult {request : Request} {dump : List Emission}
    (h : Dumps request dump) : dump.filter Emission.isResult = [] := by
  cases h <;> rfl

/-- The work that debugging does again has been done: a text with a value is read and parsed, and a
text that was rejected for another reason than an unknown symbol is read. -/
theorem exists_dumps (request : Request) : ∃ dump, Dumps request dump := by
  obtain ⟨outcome, comes⟩ := exists_comesTo request.1
  cases comes with
  | value evaluated =>
    obtain ⟨tree, parsed⟩ := Calculator.exists_parse_of_eval evaluated
    obtain ⟨tokens, read⟩ := Calculator.exists_tokenize_of_parse parsed
    exact ⟨_, .value evaluated read parsed⟩
  | @rejection rejection cause rejected =>
    by_cases unknown : rejection.reason = .unknownSymbol
    · exact ⟨_, .unknownSymbol rejected unknown⟩
    · obtain ⟨tokens, read⟩ := (evaluate_eq_rejected_iff.1 rejected).exists_tokenize unknown
      exact ⟨_, .rejection rejected unknown read⟩

/-- The tokens of a text that is read are listed. -/
theorem exists_tokenEmissions {text : String} {tokens : List Token}
    (read : Calculator.standard.tokenize text = .ok tokens) (options : Options) :
    ∃ emissions, tokenEmissions options text = .ok emissions ∧
      BesideTraces options emissions [.tokens (Token.listing tokens)] :=
  ⟨_, by rw [tokenEmissions, read], (BesideTraces.shown options _).append (.singleton rfl)⟩

/-- The tree of a text that is parsed is outlined. -/
theorem exists_treeEmissions {text : String} {tree : Expr}
    (parsed : Calculator.standard.parse text = .ok tree) (options : Options) :
    ∃ emissions, treeEmissions options text = .ok emissions ∧
      BesideTraces options emissions [.tree tree.outline] :=
  ⟨_, by rw [treeEmissions, parsed], (BesideTraces.shown options _).append (.singleton rfl)⟩

/-- **Debugging does not fail**, and shows the dump of a request. -/
theorem exists_debugOf_of_dumps (options : Options) {request : Request} {result : LineResult}
    {dump : List Emission} (isOf : result.IsOf request) (dumps : Dumps request dump) :
    ∃ debug, debugOf options result = .ok debug ∧
      BesideTraces options debug (if options.debug then dump else []) := by
  unfold debugOf
  split
  · have source : result.text = request.1 := isOf.source
    cases dumps with
    | value evaluated read parsed =>
      obtain ⟨listing, listed, shown⟩ := exists_tokenEmissions read options
      obtain ⟨outline, outlined, shown'⟩ := exists_treeEmissions parsed options
      refine ⟨listing ++ outline, ?_, shown.append shown'⟩
      simp only [debugEmissions, isOf.outcome_of_value evaluated, source, listed, outlined, bind,
        Except.bind, Except.mapError]
    | unknownSymbol rejected unknown =>
      refine ⟨[], ?_, .nil⟩
      simp only [debugEmissions, isOf.outcome_of_rejected rejected, if_pos unknown]
    | rejection rejected known read =>
      obtain ⟨listing, listed, shown⟩ := exists_tokenEmissions read options
      refine ⟨listing, ?_, shown⟩
      simp only [debugEmissions, isOf.outcome_of_rejected rejected, if_neg known, source, listed]
  · exact ⟨[], rfl, .nil⟩

/-- Debugging reports nothing. -/
theorem exists_debugOf (options : Options) {request : Request} {result : LineResult}
    (isOf : result.IsOf request) :
    ∃ debug, debugOf options result = .ok debug ∧ debug.filter Emission.isResult = [] := by
  obtain ⟨dump, dumps⟩ := exists_dumps request
  obtain ⟨debug, debugged, beside⟩ := exists_debugOf_of_dumps options isOf dumps
  refine ⟨debug, debugged, ?_⟩
  rw [beside.filter_isResult]
  split
  · exact dumps.filter_isResult
  · rfl

/-! ## The walk through the results -/

/-- What is reported, each emission behind what debugging shows. -/
def interleaved (reported : List (List Emission × Emission)) : List Emission :=
  reported.flatMap fun (debug, emission) => debug ++ [emission]

section Walk

variable {options : Options} {name : String}

/-- Whether results are reported: each by an emission, behind what debugging shows of it. -/
def ReportedBy (options : Options) (name : String) (results : List LineResult)
    (reported : List (List Emission × Emission)) : Prop :=
  List.Forall₂ (fun result shown => debugOf options result = .ok shown.1 ∧
    resultEmission options name result = .ok shown.2) results reported

/-- How a result is reported: by its value, if that can be printed, or by its snippet. -/
theorem resultEmission_cases (options : Options) (name : String) (result : LineResult) :
    (∃ value text, result.outcome = .ok value ∧ value.display options.precision = .ok text ∧
      resultEmission options name result = .ok (.value text)) ∨
    (∃ value fault, result.outcome = .ok value ∧
      value.display options.precision = .error fault ∧
      resultEmission options name result = .error fault) ∨
    ∃ rejection, result.outcome = .error rejection ∧
      resultEmission options name result = .ok (.snippet (rejection.format name result.line)) := by
  cases outcome : result.outcome with
  | ok value =>
    cases display : value.display options.precision with
    | ok text =>
      refine .inl ⟨value, text, rfl, display, ?_⟩
      simp only [resultEmission, outcome, display, Except.map]
    | error fault =>
      refine .inr (.inl ⟨value, fault, rfl, display, ?_⟩)
      simp only [resultEmission, outcome, display, Except.map]
  | error rejection => exact .inr (.inr ⟨rejection, rfl, by rw [resultEmission, outcome]⟩)

theorem isResult_of_resultEmission {result : LineResult} {emission : Emission}
    (h : resultEmission options name result = .ok emission) : emission.isResult = true := by
  rcases resultEmission_cases options name result with
    ⟨_, _, _, _, reported⟩ | ⟨_, _, _, _, failed⟩ | ⟨_, _, reported⟩
  · cases h.symm.trans reported
    rfl
  · cases h.symm.trans failed
  · cases h.symm.trans reported
    rfl

/-- Results that can all be reported are, and the report ends as it is meant to. -/
theorem reportFrom_of_reportedBy {results : List LineResult}
    {reported : List (List Emission × Emission)} (h : ReportedBy options name results reported)
    (ending : Report) (before : List Emission) :
    reportFrom options name ending before results =
      ending.after (before.reverse ++ interleaved reported) := by
  induction h generalizing before with
  | nil => rw [reportFrom, interleaved, List.flatMap_nil, List.append_nil]
  | @cons result shown results reported first _ ih =>
    rw [reportFrom, first.1]
    simp only [first.2]
    rw [ih, interleaved, interleaved, List.flatMap_cons]
    simp only [List.reverse_cons, List.reverse_append, List.reverse_reverse, List.append_assoc]

/-- A result that cannot be printed breaks the report off. -/
theorem reportFrom_of_fault {front rest : List LineResult} {result : LineResult}
    {reported : List (List Emission × Emission)} {debug : List Emission} {fault : PrecisionFault}
    (h : ReportedBy options name front reported) (debugged : debugOf options result = .ok debug)
    (failed : resultEmission options name result = .error fault) (ending : Report)
    (before : List Emission) :
    (reportFrom options name ending before (front ++ result :: rest)).ending =
      .error (.precision fault) := by
  induction h generalizing before with
  | nil =>
    rw [List.nil_append, reportFrom, debugged]
    simp only [failed]
  | cons first _ ih =>
    rw [List.cons_append, reportFrom, first.1]
    simp only [first.2]
    exact ih _

/-- Results of requests can all be reported, or one of them is the first that cannot be printed. -/
theorem exists_reportedBy_or_fault (options : Options) (name : String) {requests : List Request}
    {results : List LineResult} (h : AreResultsOf requests results) :
    (∃ reported, ReportedBy options name results reported) ∨
      ∃ front reported result rest debug fault, results = front ++ result :: rest ∧
        ReportedBy options name front reported ∧ debugOf options result = .ok debug ∧
        resultEmission options name result = .error fault := by
  induction h with
  | nil => exact .inl ⟨[], .nil⟩
  | @cons request result requests rest isOf _ ih =>
    obtain ⟨debug, debugged, -⟩ := exists_debugOf options isOf
    cases first : resultEmission options name result with
    | error fault => exact .inr ⟨[], [], result, rest, debug, fault, rfl, .nil, debugged, first⟩
    | ok emission =>
      rcases ih with
        ⟨reported, shown⟩ | ⟨front, reported, other, rest, debug', fault, rfl, shown, failed⟩
      · exact .inl ⟨(debug, emission) :: reported, .cons ⟨debugged, first⟩ shown⟩
      · exact .inr ⟨result :: front, (debug, emission) :: reported, other, rest, debug', fault, rfl,
          .cons ⟨debugged, first⟩ shown, failed⟩

end Walk

/-! ## Answers -/

/-- The emission that answers a request: its value in a precision, or a snippet under a name. -/
inductive AnsweredBy (precision : Int) (name : String) (request : Request) : Emission → Prop where
  | value {value : Binary64} {text : String} (evaluated : evaluate request.1 = .ok value)
      (displayed : value.display precision = .ok text) :
      AnsweredBy precision name request (.value text)
  | snippet {rejection : Rejection} {cause : Cause}
      (rejected : evaluate request.1 = .error (.rejected rejection cause)) :
      AnsweredBy precision name request (.snippet (rejection.format name request.2))

theorem AnsweredBy.unique {precision : Int} {name : String} {request : Request}
    {emission other : Emission} (h : AnsweredBy precision name request emission)
    (h' : AnsweredBy precision name request other) : emission = other := by
  cases h with
  | value evaluated displayed =>
    cases h' with
    | value evaluated' displayed' =>
      cases evaluated.symm.trans evaluated'
      cases displayed.symm.trans displayed'
      rfl
    | snippet rejected => cases evaluated.symm.trans rejected
  | snippet rejected =>
    cases h' with
    | value evaluated => cases rejected.symm.trans evaluated
    | snippet rejected' =>
      cases rejected.symm.trans rejected'
      rfl

/-- Whether a report answers requests: each has been evaluated and reported, in turn and once, and
the exit code is one if a request failed and zero if none did. -/
structure Report.Answers (report : Report) (precision : Int) (name : String)
    (requests : List Request) : Prop where
  answered : List.Forall₂ (AnsweredBy precision name) requests
    (report.emissions.filter Emission.isResult)
  ending : report.ending = .ok 1 ∧ (∃ request ∈ requests, request.Fails) ∨
    report.ending = .ok 0 ∧ ∀ request ∈ requests, ¬request.Fails

theorem answeredBy_of_resultEmission {options : Options} {name : String} {request : Request}
    {result : LineResult} {emission : Emission} (isOf : result.IsOf request)
    (h : resultEmission options name result = .ok emission) :
    AnsweredBy options.precision name request emission := by
  obtain ⟨place, -, comes⟩ := isOf
  rcases resultEmission_cases options name result with
    ⟨value, text, outcome, display, reported⟩ | ⟨_, _, _, _, failed⟩ | ⟨_, outcome, reported⟩
  · cases h.symm.trans reported
    rw [outcome] at comes
    cases comes with
    | value evaluated => exact .value evaluated display
  · cases h.symm.trans failed
  · cases h.symm.trans reported
    rw [outcome] at comes
    cases comes with
    | rejection rejected => exact place ▸ .snippet rejected

/-- Only a value in a precision that is not accepted cannot be reported. -/
theorem hasValue_of_resultEmission {options : Options} {name : String} {request : Request}
    {result : LineResult} {fault : PrecisionFault} (isOf : result.IsOf request)
    (h : resultEmission options name result = .error fault) :
    request.HasValue ∧ significantDigits options.precision = .error fault := by
  obtain ⟨-, -, comes⟩ := isOf
  rcases resultEmission_cases options name result with
    ⟨_, _, _, _, reported⟩ | ⟨value, _, outcome, display, failed⟩ | ⟨_, _, reported⟩
  · cases h.symm.trans reported
  · cases h.symm.trans failed
    rw [outcome] at comes
    cases comes with
    | value evaluated => exact ⟨⟨value, evaluated⟩, Binary64.display_eq_error_iff.1 display⟩
  · cases h.symm.trans reported

theorem isRejected_iff {request : Request} {result : LineResult}
    (isOf : result.IsOf request) : isRejected result = true ↔ request.Fails := by
  obtain ⟨-, -, comes⟩ := isOf
  unfold isRejected
  generalize result.outcome = outcome at comes
  cases comes with
  | value evaluated =>
    refine iff_of_false Bool.false_ne_true ?_
    rintro ⟨rejection, cause, rejected⟩
    exact absurd (evaluated.symm.trans rejected) (by simp)
  | rejection rejected => exact iff_of_true rfl ⟨_, _, rejected⟩

theorem any_isRejected_iff {requests : List Request} {results : List LineResult}
    (h : AreResultsOf requests results) :
    results.any isRejected = true ↔ ∃ request ∈ requests, request.Fails := by
  constructor
  · intro failed
    obtain ⟨result, here, rejected⟩ := List.any_eq_true.1 failed
    obtain ⟨request, mem, isOf⟩ := exists_mem_of_forall₂_right h here
    exact ⟨request, mem, (isRejected_iff isOf).1 rejected⟩
  · rintro ⟨request, mem, fails⟩
    obtain ⟨result, here, isOf⟩ := exists_mem_of_forall₂_left h mem
    exact List.any_eq_true.2 ⟨result, here, (isRejected_iff isOf).2 fails⟩

/-- The results among what is reported answer the requests. -/
theorem answered_interleaved {options : Options} {name : String} {requests : List Request}
    {results : List LineResult} {reported : List (List Emission × Emission)}
    (h : AreResultsOf requests results) (shown : ReportedBy options name results reported) :
    List.Forall₂ (AnsweredBy options.precision name) requests
      ((interleaved reported).filter Emission.isResult) := by
  induction h generalizing reported with
  | nil =>
    cases shown
    exact .nil
  | cons isOf _ ih =>
    cases shown with
    | @cons _ both _ _ first others =>
      obtain ⟨debug, debugged, silent⟩ := exists_debugOf options isOf
      cases debugged.symm.trans first.1
      rw [interleaved, List.flatMap_cons, List.filter_append, List.filter_append, silent,
        List.nil_append, List.filter_cons_of_pos (isResult_of_resultEmission first.2)]
      exact .cons (answeredBy_of_resultEmission isOf first.2) (ih others)

/-- A report that answers has met no value that it could not print. -/
theorem Report.Answers.printed {report : Report} {precision : Int} {name : String}
    {requests : List Request} (h : report.Answers precision name requests) {request : Request}
    (mem : request ∈ requests) (hasValue : request.HasValue) (fault : PrecisionFault) :
    significantDigits precision ≠ .error fault := by
  intro refused
  obtain ⟨value, evaluated⟩ := hasValue
  obtain ⟨emission, _, answered⟩ := exists_mem_of_forall₂_left h.answered mem
  cases answered with
  | value _ displayed =>
    exact absurd (displayed.symm.trans (Binary64.display_eq_error_iff.2 refused)) (by simp)
  | snippet rejected => exact absurd (evaluated.symm.trans rejected) (by simp)

/-- Results that can all be reported are, between traces, and the exit code says whether one is a
rejection. -/
theorem exists_reportOn_of_reportedBy {options : Options} {evaluation : Evaluation}
    {reported : List (List Emission × Emission)}
    (h : ReportedBy options evaluation.name evaluation.results reported) :
    ∃ before behind, reportOn options evaluation =
      ⟨shown options before ++ (interleaved reported ++ shown options behind),
        .ok (if evaluation.results.any isRejected then 1 else 0)⟩ := by
  rw [reportOn, reportFrom_of_reportedBy h]
  exact ⟨_, _, rfl⟩

/-- **The two outcomes of a report.** -/
theorem reportOn_cases (options : Options) (evaluation : Evaluation) {requests : List Request}
    (h : AreResultsOf requests evaluation.results) :
    (reportOn options evaluation).Answers options.precision evaluation.name requests ∨
      ∃ fault, (reportOn options evaluation).ending = .error (.precision fault) ∧
        significantDigits options.precision = .error fault ∧
        ∃ request ∈ requests, request.HasValue := by
  rcases exists_reportedBy_or_fault options evaluation.name h with
    ⟨reported, shown⟩ |
      ⟨front, reported, result, rest, debug, fault, split, shown, debugged, failed⟩
  · obtain ⟨before, behind, report⟩ := exists_reportOn_of_reportedBy shown
    refine .inl ⟨?_, ?_⟩
    · rw [report]
      rw [List.filter_append, List.filter_append, (BesideTraces.shown options _).filter_isResult,
        (BesideTraces.shown options _).filter_isResult, List.filter_nil, List.nil_append,
        List.append_nil]
      exact answered_interleaved h shown
    · rw [report]
      by_cases failed : evaluation.results.any isRejected = true
      · exact .inl ⟨by rw [if_pos failed], (any_isRejected_iff h).1 failed⟩
      · refine .inr ⟨by rw [if_neg failed], fun request mem fails => ?_⟩
        exact failed ((any_isRejected_iff h).2 ⟨request, mem, fails⟩)
  · have mem : result ∈ evaluation.results :=
      split ▸ List.mem_append_right _ (List.mem_cons_self ..)
    obtain ⟨request, here, isOf⟩ := exists_mem_of_forall₂_right h mem
    obtain ⟨hasValue, refused⟩ := hasValue_of_resultEmission isOf failed
    refine .inr ⟨fault, ?_, refused, request, here, hasValue⟩
    rw [reportOn, split]
    exact reportFrom_of_fault shown debugged failed _ _

end CommandLine

end Reckon
