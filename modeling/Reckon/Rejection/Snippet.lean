import Reckon.Rejection.Basic
import Reckon.Text.Line

/-!
# Snippets

A rejection is shown to a person as five rows: the message, the place, an empty row, the
line of the source, and a mark below it.  The line stands behind a gutter that holds its
number; in the other rows the gutter is blank and as wide.

## Which line is shown

The number of the line is the number of line feeds before the fault, and the column is
counted from the last of them.  The line itself is the one with that number among the
lines of the source, which other characters break as well.  A place that no line has is
shown with an empty line.  A fault without a place is shown at the last line.

## How long the mark is

The mark is as long as the part at fault, but does not go beyond the line, and is never
empty.

## When there is nothing to show

`format` lays the rows out, whatever the number of the line and the column of the mark are.
Neither has a bound, since the first line may be given any number and a fault may be said to
begin anywhere.  But a whole number of too many digits cannot be written, and no text has as
many blanks as `textLimit`; a rejection for which that would be needed is not shown at all,
which is what `print` adds.
-/

namespace Reckon

/-- What is shown of a rejection. -/
structure Snippet where
  message : String
  /-- The number of the line, counted from the number given to the first line. -/
  number : Int
  /-- The text of the line. -/
  shown : String
  /-- The column of the mark, counted from zero, and its length. -/
  mark : Option (Nat × Nat)
  deriving DecidableEq, Repr

namespace Snippet

/-- A text of blanks. -/
def spaces (count : Nat) : String := String.ofList (List.replicate count ' ')

/-- The number of the line as a text. -/
def numberText (snippet : Snippet) : String := toString snippet.number

/-- The width of the gutter. -/
def gutterWidth (snippet : Snippet) : Nat := snippet.numberText.length + 1

/-- The gutter of a row without a number. -/
def blankGutter (snippet : Snippet) : String := spaces snippet.gutterWidth ++ "|"

/-- The row that says where the fault is. -/
def placeRow (snippet : Snippet) (filename : String) : String :=
  let line := s!"--> {filename}:{snippet.numberText}"
  spaces snippet.gutterWidth ++ match snippet.mark with
    | some (column, _) => s!"{line}:{column + 1}"
    | none => line

/-- The row that marks the fault. -/
def markRow (snippet : Snippet) : String :=
  snippet.blankGutter ++ " " ++ match snippet.mark with
    | some (column, length) => spaces column ++ String.ofList (List.replicate length '^')
    | none => "(at end of input)"

/-- The five rows. -/
def rows (snippet : Snippet) (filename : String) : List String := [
  "error: " ++ snippet.message,
  snippet.placeRow filename,
  snippet.blankGutter,
  s!"{snippet.numberText} | {snippet.shown}",
  snippet.markRow]

/-- The rows as a text. -/
def render (snippet : Snippet) (filename : String) : String :=
  "\n".intercalate (snippet.rows filename)

/-- No text is as long as this. -/
abbrev textLimit : Nat := 0x8000000000000000

/-- How many blanks stand in front of the mark, if there is one. -/
def pad (snippet : Snippet) : Nat := (snippet.mark.map Prod.fst).getD 0

/-- Whether a snippet can be written.  The number of the line comes first, and then the blanks
in front of the mark. -/
def check (snippet : Snippet) : Except Rejection.Unprintable Unit :=
  if Numeral.isWritable snippet.number then
    if snippet.pad < textLimit then .ok () else .error .tooWide
  else .error .tooManyDigits

end Snippet

namespace Rejection

/-- A text without line feeds at its end, and then without carriage returns there. -/
def trimBreak (text : List Char) : List Char :=
  (((text.reverse.dropWhile (· == '\n'))).dropWhile (· == '\r')).reverse

/-- The number of characters of a text that stand behind its last line feed. -/
def afterLastFeed (text : List Char) : Nat := (text.reverse.takeWhile (· != '\n')).length

/-- The lines of a source; a source without lines has an empty one. -/
def linesOf (source : List Char) : List Line :=
  match Line.ofText source with
  | [] => [⟨[], []⟩]
  | lines => lines

/-- The line with an index, as it is shown. -/
def shownLine (lines : List Line) (index : Nat) : List Char :=
  match lines[index]? with
  | some line => trimBreak line.full
  | none => []

/-- What is shown of a rejection whose source begins at a line. -/
def snippet (rejection : Rejection) (line : Int) : Snippet :=
  let source := rejection.source.toList
  let lines := linesOf source
  if rejection.hasPosition then
    let start := rejection.start.toNat
    let before := source.take start
    let index := before.count '\n'
    let column := start - (before.length - afterLastFeed before)
    let shown := shownLine lines index
    let length := max 1 (min (rejection.stop - rejection.start) (shown.length - column))
    ⟨rejection.message, line + index, String.ofList shown, some (column, length.toNat)⟩
  else
    let index := lines.length - 1
    ⟨rejection.message, line + index, String.ofList (shownLine lines index), none⟩

/-- A rejection as it is laid out for a person. -/
def format (rejection : Rejection) (filename : String) (line : Int) : String :=
  (rejection.snippet line).render filename

/-- A rejection as it is shown to a person, if it can be written. -/
def print (rejection : Rejection) (filename : String) (line : Int) :
    Except Unprintable String :=
  (rejection.snippet line).check.map fun _ => rejection.format filename line

end Rejection

end Reckon
