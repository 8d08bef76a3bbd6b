import Reckon.CommandLine.Arguments
import Reckon.CommandLine.Surroundings
import Reckon.Toml.Document

/-!
# Options

The options of a run come from the arguments and from a configuration document; where both
say something, the arguments win.  The document is the one that the arguments name, or else
the one that lies in the directory where the program was started; a document that is not
there says nothing.

A precision in the document must be a whole number even where an argument overrides it.
Anything else that the document says and that is not understood is passed over.
-/

namespace Reckon

namespace CommandLine

/-- What is wrong with what has been asked for. -/
inductive OptionFault where
  | notInteger (found : String)
  | notPositive (precision : Int)
  deriving DecidableEq, Repr

/-- The text of a fault. -/
def OptionFault.message : OptionFault → String
  | notInteger found => s!"output.precision must be an integer, got {found}"
  | notPositive precision => s!"precision must be at least 1, got {precision}"

/-- Why there are no options.  The first two are reported. -/
inductive NoOptions where
  | option (fault : OptionFault)
  | configuration (cause : Toml.Cause) (place : Toml.Place)
  | breakOff (reason : BreakOff)
  deriving DecidableEq, Repr

/-- The options of a run. -/
structure Options where
  expressions : List String
  /-- The file to read expressions from; without one, the standard input is read. -/
  inputFile : Option Path
  precision : Int
  comments : Bool
  debug : Bool
  verbose : Bool
  deriving DecidableEq, Repr

/-- The number of significant digits where nothing else is asked for. -/
def defaultPrecision : Int := 12

/-- The configuration document that is read where none is named. -/
def defaultConfiguration : Path := .ofText "calcexpr.toml"

/-- The path that a text names; the empty text names none. -/
def pathOf? (text : String) : Option Path := if text = "" then none else some (.ofText text)

/-- The bytes of a configuration document, if there is one. -/
def configurationBytes? (read : Path → Except FileFault (List UInt8)) (path : Path) :
    Except BreakOff (Option (List UInt8)) :=
  match read path with
  | .ok bytes => .ok (some bytes)
  | .error .nameTooLong => .error (.file .nameTooLong path)
  | .error _ => .ok none

/-- The table of a configuration document. -/
def configurationOf (bytes : List UInt8) : Except NoOptions Toml.Table := do
  let text ← (Utf8.decode bytes).mapError fun fault => .breakOff (.undecodable fault)
  (Toml.Table.ofText text).mapError fun fault => match fault with
    | .malformed cause place => .configuration cause place
    | .tooManyDigits count => .breakOff (.configuration (.tooManyDigits count))

/-- What a configuration says at a key of a table. -/
def said? (configuration : Toml.Table) (table key : String) : Option Toml.Value :=
  match configuration.get? table with
  | some (.table entries) => Toml.Table.get? entries key
  | _ => none

/-- The precision that a configuration asks for. -/
def configuredPrecision (configuration : Toml.Table) : Except NoOptions Int :=
  match said? configuration "output" "precision" with
  | none => .ok defaultPrecision
  | some (.integer precision) => .ok precision
  | some other =>
    if other.isWritable then .error (.option (.notInteger other.display))
    else .error (.breakOff (.configuration (.tooManyDigits none)))

/-- Whether a configuration leaves comments recognised. -/
def configuredComments (configuration : Toml.Table) : Bool :=
  match said? configuration "input" "comments" with
  | some (.truth comments) => comments
  | _ => true

/-- The options that arguments and a configuration amount to. -/
def Options.resolve (arguments : Arguments) (configuration : Toml.Table) :
    Except NoOptions Options := do
  let configured ← configuredPrecision configuration
  let precision ← match arguments.precision with
    | none => .ok configured
    | some (some precision) => .ok precision
    | some none => .error (.breakOff .noPrecision)
  if precision < 1 then .error (.option (.notPositive precision))
  else .ok {
    expressions := arguments.expressions
    inputFile := pathOf? arguments.file
    precision
    comments := configuredComments configuration
    debug := arguments.debug
    verbose := arguments.verbose }

/-- The path of the configuration document that arguments name or leave to be found. -/
def configurationPath (arguments : Arguments) : Path :=
  (pathOf? arguments.config).getD defaultConfiguration

/-- The options of arguments in their surroundings. -/
def Options.find (arguments : Arguments) (read : Path → Except FileFault (List UInt8)) :
    Except NoOptions Options := do
  let bytes? ← (configurationBytes? read (configurationPath arguments)).mapError .breakOff
  match bytes? with
  | none => Options.resolve arguments []
  | some bytes => Options.resolve arguments (← configurationOf bytes)

end CommandLine

end Reckon
