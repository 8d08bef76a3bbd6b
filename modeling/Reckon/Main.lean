import Reckon.CommandLine.Run

/-!
# The program

Reads what the run needs from the world, lets the library decide, and writes what it says.
-/

namespace Reckon

namespace CommandLine

/-- Whether an error code stands for a number; some codes have the opposite sign. -/
def isCodeOf (number code : UInt32) : Bool := code == number || code == 0 - number

/-- The fault that an error of the file system stands for, by its code where one kind of error
has several. -/
def faultOf : IO.Error → FileFault
  | .inappropriateType _ code _ => if isCodeOf 20 code then .notDirectory else .isDirectory
  | .invalidArgument _ code _ => if isCodeOf 36 code then .nameTooLong else .missing
  | _ => .missing

/-- The bytes of the file at a path of the file system. -/
def readFile (path : Path) : IO (Except FileFault (List UInt8)) := do
  let name := path.text
  if name.toList.contains '\x00' then return .error .embeddedNull
  try
    return .ok (← IO.FS.readBinFile name).toList
  catch fault =>
    return .error (faultOf fault)

/-- A look-up among files that have been read. -/
def lookUp (files : List (Path × Except FileFault (List UInt8))) (path : Path) :
    Except FileFault (List UInt8) :=
  ((files.find? (·.1 = path)).map Prod.snd).getD (.error .missing)

/-- Everything that a stream holds. -/
partial def readAll (stream : IO.FS.Stream) (bytes : ByteArray) : IO ByteArray := do
  let chunk ← stream.read 65536
  if chunk.isEmpty then return bytes else readAll stream (bytes ++ chunk)

/-- The paths that arguments may lead to. -/
def pathsOf (arguments : List String) : List Path :=
  match Arguments.ofList arguments with
  | .ok arguments => configurationPath arguments :: (pathOf? arguments.file).toList
  | .error _ => []

/-- What lies around a run with the given arguments. -/
def gather (arguments : List String) : IO Surroundings := do
  let files ← (pathsOf arguments).mapM fun path => return (path, ← readFile path)
  let wanted := match Arguments.ofList arguments with
    | .ok arguments => arguments.expressions.isEmpty
    | .error _ => false
  let input ← if wanted then readAll (← IO.getStdin) .empty else pure .empty
  return ⟨input.toList, lookUp files⟩

/-- Runs the program, and gives its exit code. -/
def perform (arguments : List String) : IO UInt32 := do
  match runArguments arguments (← gather arguments) with
  | .error .help =>
    IO.print helpText
    return 0
  | .error (.misuse misuse) =>
    IO.eprint (usage ++ misuse.row ++ "\n")
    return 2
  | .ok report =>
    IO.print report.output
    IO.eprint report.errors
    match report.ending with
    | .ok code => return code.toUInt32
    | .error reason =>
      IO.eprintln reason.message
      return 1

end CommandLine

end Reckon

/-- The entry point. -/
def main (arguments : List String) : IO UInt32 := Reckon.CommandLine.perform arguments
