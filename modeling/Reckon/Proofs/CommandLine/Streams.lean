import Reckon.Proofs.CommandLine.Ending

/-!
# What a run writes

A run writes to two streams.  On the standard output stand the values of the requests that have one,
each on a row of its own; on the standard error stand the snippets of the others, and with debugging
on a dump for each request.  What a request leaves on the streams is a `Printing`: its dump, and the
emission that answers it.  Both are told by what evaluating the request comes to (`Printing.IsOf`),
and debugging has no part in it.  A request has one printing (`Printing.IsOf.unique`).

A run is made up of the printings of its requests, in their order
(`exists_prints_of_requested`).  So debugging changes neither the standard output nor the ending,
and without it the standard error has the snippets only.

Traces go to the standard error as well, between the other things.  They are taken out by
`Report.withoutTraces`, and there are none where none are asked for.
-/

namespace Reckon

namespace CommandLine

/-! ## Printings -/

/-- What a request leaves on the streams: what debugging shows of it, and what answers it. -/
structure Printing where
  dump : List Emission
  answer : Emission

namespace Printing

/-- What is emitted, with debugging or without. -/
def emissions (printing : Printing) (debug : Bool) : List Emission :=
  (if debug then printing.dump else []) ++ [printing.answer]

/-- What is put on the standard output. -/
def output (printing : Printing) : String := printing.answer.toOutput

/-- What is put on the standard error, with debugging or without. -/
def errors (printing : Printing) (debug : Bool) : String :=
  (if debug then String.join (printing.dump.map Emission.toError) else "") ++
    printing.answer.toError

/-- Whether a printing is that of a request, in a precision and under a name. -/
structure IsOf (precision : Int) (name : String) (request : Request) (printing : Printing) :
    Prop where
  dump : Dumps request printing.dump
  answer : AnsweredBy precision name request printing.answer

end Printing

/-- A report without its traces. -/
def Report.withoutTraces (report : Report) : Report :=
  { report with emissions := report.emissions.filter Emission.isPlain }

/-- Whether a report prints, with debugging or without, and ends with a code. -/
structure Report.Prints (report : Report) (debug : Bool) (printings : List Printing)
    (code : Nat) : Prop where
  ending : report.ending = .ok code
  output : report.output = String.join (printings.map Printing.output)
  errors : report.withoutTraces.errors =
    String.join (printings.map fun printing => printing.errors debug)

section Printing

variable {precision : Int} {name : String} {request : Request} {printing : Printing}
variable {options : Options} {result : LineResult}

/-- Every request can be printed, in a precision that is accepted. -/
theorem exists_isOf {count : Nat} (accepted : significantDigits precision = .ok count)
    (name : String) (request : Request) :
    ∃ printing, Printing.IsOf precision name request printing := by
  obtain ⟨dump, dumps⟩ := exists_dumps request
  obtain ⟨outcome, comes⟩ := exists_comesTo request.1
  cases comes with
  | @value value evaluated =>
    cases displayed : value.display precision with
    | ok text => exact ⟨⟨dump, _⟩, dumps, .value evaluated displayed⟩
    | error fault => cases accepted.symm.trans (Binary64.display_eq_error_iff.1 displayed)
  | rejection rejected => exact ⟨⟨dump, _⟩, dumps, .snippet rejected⟩

/-- A request has one printing. -/
theorem Printing.IsOf.unique {other : Printing} (h : printing.IsOf precision name request)
    (h' : other.IsOf precision name request) : printing = other := by
  obtain ⟨dump, answer⟩ := printing
  obtain ⟨dump', answer'⟩ := other
  have dumped : dump = dump' := h.dump.unique h'.dump
  have answered : answer = answer' := h.answer.unique h'.answer
  rw [dumped, answered]

theorem exists_forall₂_isOf {count : Nat} (accepted : significantDigits precision = .ok count)
    (name : String) (requests : List Request) :
    ∃ printings, List.Forall₂ (Printing.IsOf precision name) requests printings := by
  induction requests with
  | nil => exact ⟨[], .nil⟩
  | cons request requests ih =>
    obtain ⟨printing, isOf⟩ := exists_isOf accepted name request
    obtain ⟨printings, others⟩ := ih
    exact ⟨printing :: printings, .cons isOf others⟩

/-- A result is reported as its request is answered. -/
theorem resultEmission_of_answeredBy {emission : Emission} (isOf : result.IsOf request)
    (answered : AnsweredBy options.precision name request emission) :
    resultEmission options name result = .ok emission := by
  cases answered with
  | value evaluated displayed =>
    simp only [resultEmission, isOf.outcome_of_value evaluated, displayed, Except.map]
  | snippet rejected =>
    simp only [resultEmission, isOf.outcome_of_rejected rejected, isOf.number]

theorem isPlain_of_answeredBy {emission : Emission}
    (answered : AnsweredBy precision name request emission) : emission.isPlain = true := by
  cases answered <;> rfl

/-- **One result**: it is reported by the printing of its request. -/
theorem exists_reported_of_isOf (isOf : result.IsOf request)
    (prints : Printing.IsOf options.precision name request printing) :
    ∃ debug, debugOf options result = .ok debug ∧
      resultEmission options name result = .ok printing.answer ∧
      BesideTraces options (debug ++ [printing.answer]) (printing.emissions options.debug) := by
  obtain ⟨debug, debugged, beside⟩ := exists_debugOf_of_dumps options isOf prints.dump
  exact ⟨debug, debugged, resultEmission_of_answeredBy isOf prints.answer,
    beside.append (.singleton (isPlain_of_answeredBy prints.answer))⟩

/-- **All results**: they are reported by the printings of their requests, in their order. -/
theorem exists_reportedBy_of_isOf {requests : List Request} {results : List LineResult}
    {printings : List Printing} (h : AreResultsOf requests results)
    (prints : List.Forall₂ (Printing.IsOf options.precision name) requests printings) :
    ∃ reported, ReportedBy options name results reported ∧
      BesideTraces options (interleaved reported)
        (printings.flatMap fun printing => printing.emissions options.debug) := by
  induction h generalizing printings with
  | nil =>
    cases prints
    exact ⟨[], .nil, .nil⟩
  | cons isOf _ ih =>
    cases prints with
    | @cons _ printing _ printings first others =>
      obtain ⟨debug, debugged, answered, beside⟩ := exists_reported_of_isOf isOf first
      obtain ⟨reported, shown, besides⟩ := ih others
      refine ⟨(debug, printing.answer) :: reported, .cons ⟨debugged, answered⟩ shown, ?_⟩
      rw [interleaved, List.flatMap_cons, List.flatMap_cons]
      exact beside.append besides

end Printing

/-! ## Streams -/

section Streams

variable {options : Options} {requests : List Request} {printings : List Printing}

theorem join_map_flatMap {α β : Type} {parts : α → List β} {text : β → String} {whole : α → String}
    {items : List α} (h : ∀ item ∈ items, String.join ((parts item).map text) = whole item) :
    String.join ((items.flatMap parts).map text) = String.join (items.map whole) := by
  induction items with
  | nil => rfl
  | cons item items ih =>
    obtain ⟨first, others⟩ := List.forall_mem_cons.1 h
    rw [List.flatMap_cons, List.map_append, String.join_append, first, ih others, List.map_cons,
      String.join_cons]

theorem join_singleton (text : String) : String.join [text] = text := by
  rw [String.join_cons, String.join_nil, String.append_empty]

/-- A dump puts nothing on the standard output. -/
theorem Dumps.join_toOutput {request : Request} {dump : List Emission} (h : Dumps request dump) :
    String.join (dump.map Emission.toOutput) = "" := by
  cases h <;> rfl

theorem Printing.IsOf.join_toOutput {precision : Int} {name : String} {request : Request}
    {printing : Printing} (h : printing.IsOf precision name request) (debug : Bool) :
    String.join ((printing.emissions debug).map Emission.toOutput) = printing.output := by
  have dumped : String.join ((if debug then printing.dump else []).map Emission.toOutput) = "" := by
    split
    · exact h.dump.join_toOutput
    · rfl
  rw [Printing.emissions, List.map_append, String.join_append, dumped, String.empty_append,
    List.map_singleton, join_singleton]
  rfl

theorem Printing.join_toError (printing : Printing) (debug : Bool) :
    String.join ((printing.emissions debug).map Emission.toError) = printing.errors debug := by
  rw [Printing.emissions, List.map_append, String.join_append, List.map_singleton, join_singleton,
    Printing.errors]
  cases debug <;> rfl

/-- Traces put nothing on the standard output. -/
theorem Report.output_withoutTraces (report : Report) :
    report.withoutTraces.output = report.output := by
  rw [output, output, withoutTraces]
  induction report.emissions with
  | nil => rfl
  | cons emission emissions ih =>
    cases plain : emission.isPlain with
    | true =>
      rw [List.filter_cons_of_pos plain, List.map_cons, List.map_cons, String.join_cons,
        String.join_cons, ih]
    | false =>
      have nothing : emission.toOutput = "" := by
        cases emission <;> first | rfl | cases plain
      rw [List.filter_cons_of_neg (by simp [plain]), ih, List.map_cons, String.join_cons, nothing,
        String.empty_append]

/-- What is emitted tells what is put on the streams. -/
theorem Report.prints_of_besideTraces {precision : Int} {name : String} {debug : Bool}
    {report : Report} {code : Nat} (ending : report.ending = .ok code)
    (beside : BesideTraces options report.emissions
      (printings.flatMap fun printing => printing.emissions debug))
    (isOf : List.Forall₂ (Printing.IsOf precision name) requests printings) :
    report.Prints debug printings code := by
  refine ⟨ending, ?_, ?_⟩
  · rw [← output_withoutTraces, output, withoutTraces, beside.plain]
    refine join_map_flatMap fun printing mem => ?_
    obtain ⟨_, _, isOf⟩ := exists_mem_of_forall₂_right isOf mem
    exact isOf.join_toOutput debug
  · rw [errors, withoutTraces, beside.plain]
    exact join_map_flatMap fun printing _ => printing.join_toError debug

/-- A report on the results of requests is made up of their printings. -/
theorem besideTraces_reportOn (options : Options) (evaluation : Evaluation)
    {requests : List Request} {printings : List Printing}
    (h : AreResultsOf requests evaluation.results)
    (isOf : List.Forall₂ (Printing.IsOf options.precision evaluation.name) requests printings) :
    (reportOn options evaluation).ending =
        .ok (if evaluation.results.any isRejected then 1 else 0) ∧
      BesideTraces options (reportOn options evaluation).emissions
        (printings.flatMap fun printing => printing.emissions options.debug) := by
  obtain ⟨reported, shown, beside⟩ := exists_reportedBy_of_isOf h isOf
  obtain ⟨before, behind, report⟩ := exists_reportOn_of_reportedBy shown
  rw [report]
  have whole := (BesideTraces.shown options before).append
    (beside.append (BesideTraces.shown options behind))
  rw [List.nil_append, List.append_nil] at whole
  exact ⟨rfl, whole⟩

end Streams

/-! ## The main statement -/

/-- What is requested does not depend on debugging. -/
theorem Requested.withDebug {options : Options} {surroundings : Surroundings} {name : String}
    {requests : List Request} (h : Requested options surroundings name requests) (debug : Bool) :
    Requested { options with debug } surroundings name requests := by
  cases h with
  | arguments some_expression => exact .arguments some_expression
  | document no_expression found decoded => exact .document no_expression found decoded

/-- **One run**, with debugging or without, writes the printings of what is requested. -/
theorem exists_results_of_isOf {options : Options} {surroundings : Surroundings} {name : String}
    {requests : List Request} {printings : List Printing}
    (requested : Requested options surroundings name requests)
    (isOf : List.Forall₂ (Printing.IsOf options.precision name) requests printings) :
    ∃ results, AreResultsOf requests results ∧
      (run options surroundings).Prints options.debug printings
        (if results.any isRejected then 1 else 0) ∧
      (options.verbose = false →
        (run options surroundings).withoutTraces = run options surroundings) := by
  obtain ⟨results, related, ran⟩ := run_of_requested requested
  obtain ⟨ending, beside⟩ := besideTraces_reportOn options ⟨name, results⟩ related isOf
  rw [← ran] at ending beside
  refine ⟨results, related, Report.prints_of_besideTraces ending beside isOf, fun quiet => ?_⟩
  rw [Report.withoutTraces, beside.plain, ← beside.quiet quiet]

/-- **What a run writes.**  In a precision that is accepted, every request has a printing that does
not depend on debugging, and there is an exit code, one if a request failed and zero if none did.  A
run writes these printings in turn and ends with this code, with debugging and without, and has no
traces if none are asked for. -/
theorem exists_prints_of_requested {options : Options} {surroundings : Surroundings}
    {name : String} {requests : List Request} {count : Nat}
    (requested : Requested options surroundings name requests)
    (accepted : significantDigits options.precision = .ok count) :
    ∃ printings code, List.Forall₂ (Printing.IsOf options.precision name) requests printings ∧
      (code = 1 ∧ (∃ request ∈ requests, request.Fails) ∨
        code = 0 ∧ ∀ request ∈ requests, ¬request.Fails) ∧
      ∀ debug, (run { options with debug } surroundings).Prints debug printings code ∧
        (options.verbose = false → (run { options with debug } surroundings).withoutTraces =
          run { options with debug } surroundings) := by
  obtain ⟨printings, isOf⟩ := exists_forall₂_isOf accepted name requests
  by_cases failing : ∃ request ∈ requests, request.Fails
  · refine ⟨printings, 1, isOf, .inl ⟨rfl, failing⟩, fun debug => ?_⟩
    obtain ⟨results, related, prints⟩ := exists_results_of_isOf (requested.withDebug debug) isOf
    rwa [if_pos ((any_isRejected_iff related).2 failing)] at prints
  · refine ⟨printings, 0, isOf, .inr ⟨rfl, fun request mem fails => ?_⟩, fun debug => ?_⟩
    · exact failing ⟨request, mem, fails⟩
    · obtain ⟨results, related, prints⟩ := exists_results_of_isOf (requested.withDebug debug) isOf
      rwa [if_neg (mt (any_isRejected_iff related).1 failing)] at prints

/-- No input, and no files. -/
def emptySurroundings : Surroundings where
  input := []
  read := (FileTree.directory []).read

/-- Options that ask for a sum, for a symbol that no rule reads, and for a parenthesis that closes
nothing. -/
def mixedOptions : Options := ⟨["1+1", "&", ")"], none, 12, true, false, false⟩

/-- What is printed for the sum. -/
def sumPrinting : Printing where
  dump := [.tokens "   0 NUMBER  '1'\n   1 ADD     '+'\n   2 NUMBER  '1'\n",
    .tree "Add\n  Number(1.0)\n  Number(1.0)\n"]
  answer := .value "2"

/-- What is printed for the symbol. -/
def symbolPrinting : Printing where
  dump := []
  answer := .snippet "error: unknown symbol '&'\n  --> <arg>:1:1\n  |\n1 | &\n  | ^"

/-- What is printed for the parenthesis. -/
def closingPrinting : Printing where
  dump := [.tokens "   0 RPAREN  ')'\n"]
  answer := .snippet "error: unbalanced parentheses\n  --> <arg>:1:1\n  |\n1 | )\n  | ^"

theorem isOf_sumPrinting : sumPrinting.IsOf 12 "<arg>" ("1+1", 1) := by
  have lexed : tokenize arithmeticRules "1+1" =
      .ok [⟨.number, "1"⟩, ⟨.operator .add, "+"⟩, ⟨.number, "1"⟩] := by decide +kernel
  have read : Calculator.standard.tokenize "1+1" =
      .ok [⟨.number, "1"⟩, ⟨.operator .add, "+"⟩, ⟨.number, "1"⟩] := by
    rw [Calculator.tokenize, Calculator.standard, lexed]
    rfl
  have value : Numeral.real? "1" = some .one := by decide +kernel
  have one : Expr.Reads [⟨.number, "1"⟩] (.chain (.plain (.number .one)) []) :=
    .link (.number rfl value)
  have assembled : Expr.ofTokens [⟨.number, "1"⟩, ⟨.operator .add, "+"⟩, ⟨.number, "1"⟩] =
      .ok (.binary .add (.number .one) (.number .one)) :=
    Assembly.ofTokens_of_reads (.plus (.product (.chain one)) rfl (.inl rfl) (.chain one))
  have parsed : Calculator.standard.parse "1+1" =
      .ok (.binary .add (.number .one) (.number .one)) := by
    rw [Calculator.parse_of_tokenize lexed, assembled]
    rfl
  have calculated : (Expr.binary .add (.number .one) (.number .one)).calculate =
      .ok (Binary64.add .one .one) := by
    rw [Expr.calculate, Expr.calculateWith_eq]
    rfl
  have evaluated : evaluate "1+1" = .ok (Binary64.add .one .one) := by
    rw [evaluate, Calculator.eval, parsed]
    simp only [bind, Except.bind, Except.mapError, calculated]
  have displayed : (Binary64.add .one .one).display 12 = .ok "2" := by decide +kernel
  have listing : Token.listing [⟨.number, "1"⟩, ⟨.operator .add, "+"⟩, ⟨.number, "1"⟩] =
      "   0 NUMBER  '1'\n   1 ADD     '+'\n   2 NUMBER  '1'\n" := by decide +kernel
  have outline : (Expr.binary .add (.number .one) (.number .one)).outline =
      "Add\n  Number(1.0)\n  Number(1.0)\n" := by
    rw [Expr.outline, Expr.outlineRows_cons, Expr.outlineRows]
    decide +kernel
  rw [sumPrinting, ← listing, ← outline]
  exact ⟨.value evaluated read parsed, .value evaluated displayed⟩

theorem isOf_symbolPrinting : symbolPrinting.IsOf 12 "<arg>" ("&", 1) := by
  have unknown : tokenize arithmeticRules "&" = .error (.unknownSymbol '&' 0) := by
    decide +kernel
  have rejected : evaluate "&" = .error
      (.rejected ⟨.unknownSymbol, 0, 1, "&", some "&"⟩ (.lexing (.unknownSymbol '&' 0))) :=
    evaluate_eq_rejected_iff.2 (.unknownSymbol unknown)
  have snippet : Rejection.format ⟨.unknownSymbol, 0, 1, "&", some "&"⟩ "<arg>" 1 =
      "error: unknown symbol '&'\n  --> <arg>:1:1\n  |\n1 | &\n  | ^" := by decide +kernel
  refine ⟨.unknownSymbol rejected rfl, ?_⟩
  rw [symbolPrinting, ← snippet]
  exact .snippet rejected

theorem isOf_closingPrinting : closingPrinting.IsOf 12 "<arg>" (")", 1) := by
  have listing : Token.listing [⟨.closeParen, ")"⟩] = "   0 RPAREN  ')'\n" := by decide
  have snippet : Rejection.format ⟨.unbalanced, 0, 1, ")", none⟩ "<arg>" 1 =
      "error: unbalanced parentheses\n  --> <arg>:1:1\n  |\n1 | )\n  | ^" := by decide
  rw [closingPrinting, ← listing, ← snippet]
  refine ⟨.rejection evaluate_closeParen (by simp) ?_, .snippet evaluate_closeParen⟩
  exact Calculator.tokenize_join Token.wellSpelled_closeParen

/-- The three are printed in turn, and debugging shows the tokens and the tree of the sum, nothing
for the symbol, and the token of the parenthesis. -/
theorem exists_prints_of_requested_mixed :
    Requested mixedOptions emptySurroundings "<arg>" [("1+1", 1), ("&", 1), (")", 1)] ∧
    significantDigits mixedOptions.precision = .ok 12 ∧
    (∀ debug, (run { mixedOptions with debug } emptySurroundings).ending = .ok 1 ∧
      (run { mixedOptions with debug } emptySurroundings).output = "2\n") ∧
    (run { mixedOptions with debug := false } emptySurroundings).errors =
      "error: unknown symbol '&'\n  --> <arg>:1:1\n  |\n1 | &\n  | ^\n" ++
      "error: unbalanced parentheses\n  --> <arg>:1:1\n  |\n1 | )\n  | ^\n" ∧
    (run { mixedOptions with debug := true } emptySurroundings).errors =
      "   0 NUMBER  '1'\n   1 ADD     '+'\n   2 NUMBER  '1'\n" ++
      "Add\n  Number(1.0)\n  Number(1.0)\n" ++
      "error: unknown symbol '&'\n  --> <arg>:1:1\n  |\n1 | &\n  | ^\n" ++
      "   0 RPAREN  ')'\n" ++
      "error: unbalanced parentheses\n  --> <arg>:1:1\n  |\n1 | )\n  | ^\n" := by
  have requested :
      Requested mixedOptions emptySurroundings "<arg>" [("1+1", 1), ("&", 1), (")", 1)] :=
    .arguments (List.cons_ne_nil _ _)
  have accepted : significantDigits mixedOptions.precision = .ok 12 := by decide
  obtain ⟨printings, code, isOf, coded, runs⟩ := exists_prints_of_requested requested accepted
  have one : code = 1 := by
    rcases coded with ⟨one, -⟩ | ⟨-, none⟩
    · exact one
    · exact absurd ⟨_, _, evaluate_closeParen⟩ (none (")", 1) (by simp))
  have three : printings = [sumPrinting, symbolPrinting, closingPrinting] := by
    have unique : Relator.RightUnique (Printing.IsOf 12 "<arg>") := fun _ _ _ => Printing.IsOf.unique
    refine List.right_unique_forall₂' unique isOf ?_
    exact .cons isOf_sumPrinting (.cons isOf_symbolPrinting (.cons isOf_closingPrinting .nil))
  subst one three
  have errors : ∀ debug, (run { mixedOptions with debug } emptySurroundings).errors =
      String.join ([sumPrinting, symbolPrinting, closingPrinting].map fun printing =>
        printing.errors debug) := by
    intro debug
    rw [← (runs debug).2 rfl]
    exact (runs debug).1.errors
  refine ⟨requested, accepted, fun debug => ?_, errors false, errors true⟩
  exact ⟨(runs debug).1.ending, (runs debug).1.output⟩

end CommandLine

end Reckon
