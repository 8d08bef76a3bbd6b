import Reckon.CommandLine.Options
import Reckon.Expr.Outline
import Reckon.TokenListing
import Reckon.Trace

/-!
# Running the program

The program evaluates either the expressions among its arguments or the lines of a
document, and then reports each result: a value on the standard output, a rejection as a
snippet on the standard error.  It ends with zero if nothing was rejected, with one if
something was, and with two if it was not asked in a way that it understands or the
document cannot be read.

A run is a list of emissions, in the order in which they are written, and an ending.  What
goes to which stream is a property of the emission, so the two outputs are two views of one
list.

## More to see

With debugging on, the tokens of each source are listed before its result, and for a value
the outline of its expression; a source with an unknown symbol has no tokens to list.  The
work is done again for this, and a failure there would break the run off.  With traces on,
everything that is done leaves a record among the other emissions, the work that is done
again for debugging included.
-/

namespace Reckon

namespace CommandLine

/-- Something that is written. -/
inductive Emission where
  | value (text : String)
  | snippet (text : String)
  | tokens (text : String)
  | tree (text : String)
  | trace (record : Record)
  | complaint (text : String)
  deriving DecidableEq, Repr

namespace Emission

/-- What an emission puts on the standard output. -/
def toOutput : Emission → String
  | value text => text ++ "\n"
  | _ => ""

/-- What an emission puts on the standard error. -/
def toError : Emission → String
  | value _ => ""
  | snippet text => text ++ "\n"
  | tokens text => text
  | tree text => text
  | trace record => record.message ++ "\n"
  | complaint text => s!"error: {text}\n"

end Emission

/-- What a run has written, and its exit code unless it broke off. -/
structure Report where
  emissions : List Emission
  ending : Except BreakOff Nat

namespace Report

/-- The standard output of a run. -/
def output (report : Report) : String := String.join (report.emissions.map Emission.toOutput)

/-- The standard error of a run. -/
def errors (report : Report) : String := String.join (report.emissions.map Emission.toError)

/-- The report with emissions before it. -/
def after (report : Report) (emissions : List Emission) : Report :=
  { report with emissions := emissions ++ report.emissions }

/-- A run that ends by complaining. -/
def complain (text : String) : Report := ⟨[.complaint text], .ok 2⟩

end Report

/-- What is evaluated: a name for it, and the results. -/
structure Evaluation where
  name : String
  results : List LineResult

/-- The records that are shown. -/
def shown (options : Options) (records : List Record) : List Emission :=
  if options.verbose then records.map .trace else []

/-- The listing of the tokens of a source.  A failure stands behind what was written before it. -/
def tokenEmissions (options : Options) (text : String) :
    Except (List Emission × Failure) (List Emission) :=
  match Calculator.standard.tokenize text with
  | .ok tokens =>
    .ok (shown options (Calculator.standard.lexTrace text) ++ [.tokens (Token.listing tokens)])
  | .error failure => .error ([], failure)

/-- The outline of the expression of a source.  A failure stands behind what was written before
it. -/
def treeEmissions (options : Options) (text : String) :
    Except (List Emission × Failure) (List Emission) :=
  let records := shown options (Calculator.standard.parseTrace text)
  match Calculator.standard.parse text with
  | .ok tree => .ok (records ++ [.tree tree.outline])
  | .error failure => .error (records, failure)

/-- What debugging shows of a result. -/
def debugEmissions (options : Options) (result : LineResult) :
    Except (List Emission × Failure) (List Emission) :=
  match result.outcome with
  | .ok _ => do
    let tokens ← tokenEmissions options result.text
    let tree ← (treeEmissions options result.text).mapError fun (before, failure) =>
      (tokens ++ before, failure)
    .ok (tokens ++ tree)
  | .error rejection =>
    if rejection.reason = .unknownSymbol then .ok [] else tokenEmissions options result.text

/-- What stands before a result in a report. -/
def debugOf (options : Options) (result : LineResult) :
    Except (List Emission × Failure) (List Emission) :=
  if options.debug then debugEmissions options result else .ok []

/-- A result as it is reported. -/
def resultEmission (options : Options) (name : String) (result : LineResult) :
    Except PrecisionFault Emission :=
  match result.outcome with
  | .ok value => (value.display options.precision).map .value
  | .error rejection => .ok (.snippet (rejection.format name result.line))

/-- Whether a result is a rejection. -/
def isRejected (result : LineResult) : Bool :=
  match result.outcome with
  | .ok _ => false
  | .error _ => true

/-- The report on results, behind what was written before, which stands in reverse. -/
def reportFrom (options : Options) (name : String) (ending : Report) (before : List Emission) :
    List LineResult → Report
  | [] => ending.after before.reverse
  | result :: rest =>
    match debugOf options result with
    | .error (written, failure) => ⟨before.reverse ++ written, .error (.evaluation failure)⟩
    | .ok debug =>
      match resultEmission options name result with
      | .ok emission =>
        reportFrom options name ending (emission :: (debug.reverse ++ before)) rest
      | .error fault => ⟨(debug.reverse ++ before).reverse, .error (.precision fault)⟩

/-- The report on an evaluation. -/
def reportOn (options : Options) (evaluation : Evaluation) : Report :=
  let results := evaluation.results
  let failed := results.any isRejected
  let before := shown options (results.flatMap fun result =>
    Calculator.standard.evalTrace result.text)
  let ending : Report :=
    ⟨shown options [.finished results.length failed], .ok (if failed then 1 else 0)⟩
  (reportFrom options evaluation.name ending [] results).after before

/-- The text of a document given by its bytes. -/
def documentOf (bytes : List UInt8) : Except Utf8.Fault String :=
  (Utf8.decode bytes).map fun text => String.ofList (unifyBreaks text)

/-- The name and the bytes of the document that options ask for. -/
def documentBytes (options : Options) (surroundings : Surroundings) :
    Except (FileFault × Path) (String × List UInt8) :=
  match options.inputFile with
  | none => .ok ("<stdin>", surroundings.input)
  | some path =>
    if path.text = "-" then .ok ("<stdin>", surroundings.input)
    else match surroundings.read path with
      | .ok bytes => .ok (path.text, bytes)
      | .error fault => .error (fault, path)

/-- The report on results, unless evaluation met a failure that is no rejection. -/
def reportResults (options : Options) (name : String)
    (results : Except Failure (List LineResult)) : Report :=
  match results with
  | .ok results => reportOn options ⟨name, results⟩
  | .error failure => ⟨[], .error (.evaluation failure)⟩

/-- The run that options ask for. -/
def run (options : Options) (surroundings : Surroundings) : Report :=
  if options.expressions ≠ [] then
    reportResults options "<arg>"
      (options.expressions.mapM fun text => Calculator.standard.evalLine text 1)
  else match documentBytes options surroundings with
    | .error (.embeddedNull, path) => ⟨[], .error (.file .embeddedNull path)⟩
    | .error (fault, path) => .complain (fault.message path)
    | .ok (name, bytes) =>
      match documentOf bytes with
      | .error fault => .complain fault.message
      | .ok document => reportResults options name (evaluateLines document options.comments)

/-- The run that arguments ask for, unless there is nothing to do. -/
def runArguments (arguments : List String) (surroundings : Surroundings) : Except Stop Report := do
  let arguments ← Arguments.ofList arguments
  match Options.find arguments surroundings.read with
  | .ok options => .ok (run options surroundings)
  | .error (.option fault) => .ok (.complain fault.message)
  | .error (.configuration cause place) =>
    .ok (.complain (Toml.Fault.malformed cause place).message)
  | .error (.breakOff reason) => .ok ⟨[], .error reason⟩

/-! ## Texts about the program itself -/

/-- How the program is called. -/
def usage : String :=
  "usage: calcexpr [-h] [-f FILE] [-p DIGITS] [--config FILE] [--debug] [-v] [EXPR ...]\n"

/-- The row that says what is wrong with the arguments. -/
def Misuse.row (misuse : Misuse) : String := s!"calcexpr: error: {misuse.message}"

/-- The exit code when there is nothing to do. -/
def Stop.exitCode : Stop → Nat
  | help => 0
  | misuse _ => 2

/-- What is said about the options when help is asked for. -/
def helpText : String := usage ++ "
Evaluate arithmetic expressions

positional arguments:
  EXPR                  Expression to evaluate

options:
  -h, --help            show this help message and exit
  -f FILE, --file FILE  Evaluate each line of FILE ('-' for stdin)
  -p DIGITS, --precision DIGITS
                        Significant digits in printed results (default: 12)
  --config FILE         Config file (default: auto-discover calcexpr.toml)
  --debug               Dump tokens and tree to stderr
  -v, --verbose         Enable debug logging
"

end CommandLine

end Reckon
