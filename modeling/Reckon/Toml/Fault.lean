import Reckon.Toml.Value

/-!
# Faults in a configuration document

A fault has a cause and a position.  Its text gives the position as a line and a column,
both counted from one, or says that the document is at its end.
-/

namespace Reckon

namespace Toml

/-- What is wrong with a document. -/
inductive Cause where
  | statement
  | afterStatement
  | noEquals
  | keyStart
  | declaredTwice (key : List String)
  | overwrite
  | tableEnd
  | arrayTableEnd
  | frozen (key : List String)
  | redefined (key : List String)
  | openArray
  | openTable
  | duplicateKey (key : String)
  | escape
  | hexadecimal
  | notAScalar
  | unterminated
  | illegal (c : Char)
  | invalidCharacter (c : Char)
  | expected (delimiter : String)
  | dateOrTime
  | value
  deriving DecidableEq, Repr

/-- The words for a cause. -/
def Cause.message : Cause → String
  | statement => "Invalid statement"
  | afterStatement => "Expected newline or end of document after a statement"
  | noEquals => "Expected '=' after a key in a key/value pair"
  | keyStart => "Invalid initial character for a key part"
  | declaredTwice key => s!"Cannot declare {displayKey key} twice"
  | overwrite => "Cannot overwrite a value"
  | tableEnd => "Expected ']' at the end of a table declaration"
  | arrayTableEnd => "Expected ']]' at the end of an array declaration"
  | frozen key => s!"Cannot mutate immutable namespace {displayKey key}"
  | redefined key => s!"Cannot redefine namespace {displayKey key}"
  | openArray => "Unclosed array"
  | openTable => "Unclosed inline table"
  | duplicateKey key => s!"Duplicate inline table key {quoted key}"
  | escape => "Unescaped '\\' in a string"
  | hexadecimal => "Invalid hex value"
  | notAScalar => "Escaped character is not a Unicode scalar value"
  | unterminated => "Unterminated string"
  | illegal c => s!"Illegal character {quoted (String.singleton c)}"
  | invalidCharacter c => s!"Found invalid character {quoted (String.singleton c)}"
  | expected delimiter => s!"Expected {quoted delimiter}"
  | dateOrTime => "Invalid date or datetime"
  | value => "Invalid value"

/-- Where a fault is: at a line and a column, or at the end of the document. -/
inductive Place where
  | at (line column : Nat)
  | documentEnd
  deriving DecidableEq, Repr

/-- The text of a place. -/
def Place.message : Place → String
  | .at line column => s!"line {line}, column {column}"
  | .documentEnd => "end of document"

/-- The place of a position in a document. -/
def Place.of (source : Array Char) (position : Nat) : Place :=
  if source.size ≤ position then .documentEnd
  else
    let before := (source.extract 0 position).toList
    .at (before.count '\n' + 1) ((before.reverse.takeWhile (· != '\n')).length + 1)

/-- Why a document is of no use: something is wrong at a place, or an integer has more digits
than are accepted.  How many is known where it is read, and not where it is to be shown. -/
inductive Fault where
  | malformed (cause : Cause) (place : Place)
  | tooManyDigits (count : Option Nat)
  deriving DecidableEq, Repr

/-- The text of a fault. -/
def Fault.message : Fault → String
  | malformed cause place => s!"{cause.message} (at {place.message})"
  | tooManyDigits count => Numeral.limitMessage count

end Toml

end Reckon
