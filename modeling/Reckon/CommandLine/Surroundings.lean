import Reckon.Calculator
import Reckon.CommandLine.FileTree
import Reckon.Decimal.Significant
import Reckon.Text.Utf8
import Reckon.Toml.Fault

/-!
# What a program finds around it, and how it can break off

A program is given its standard input and a way to read files.  Most of what can go wrong
is reported; a few things are not, and break the program off where they happen.  What has
been written until then stays written.
-/

namespace Reckon

namespace CommandLine

/-- The standard input, and the result of reading the file at a path. -/
structure Surroundings where
  input : List UInt8
  read : Path → Except FileFault (List UInt8)

/-- Why a program breaks off. -/
inductive BreakOff where
  /-- The configuration is not UTF-8. -/
  | undecodable (fault : Utf8.Fault)
  /-- A path cannot be followed or be asked for. -/
  | file (fault : FileFault) (path : Path)
  /-- A number in the configuration has too many digits to be read or to be shown. -/
  | configuration (fault : Toml.Fault)
  /-- An expression met a failure that is not reported. -/
  | evaluation (failure : Failure)
  /-- Results cannot be printed with the precision. -/
  | precision (fault : PrecisionFault)
  /-- The precision was asked for without a number. -/
  | noPrecision
  deriving DecidableEq, Repr

/-- The text of a reason to break off. -/
def BreakOff.message : BreakOff → String
  | undecodable fault => fault.message
  | file fault path => fault.message path
  | configuration fault => fault.message
  | evaluation failure => failure.message
  | precision fault => fault.message
  | noPrecision => "'<' not supported between instances of 'list' and 'int'"

end CommandLine

end Reckon
