import Reckon.Cursor
import Reckon.Toml.Fault

/-!
# Scanning a configuration document

A scanner reads from a position of a document and either comes to a result and a later
position or to a fault.  This module has the scanners for blanks, comments, keys and texts;
those that repeat take a number of rounds which is at least the number of characters, so
it does not run out before the document does.
-/

namespace Reckon

namespace Toml

/-- Reads from a document at a position. -/
abbrev Scanner := ReaderT (Array Char) (StateT Nat (Except Fault))

namespace Scanner

/-- Ends with a fault at a position. -/
def failAt {α : Type} (position : Nat) (cause : Cause) : Scanner α := do
  throw (.malformed cause (.of (← read) position))

/-- Ends with a fault at the current position. -/
def fail {α : Type} (cause : Cause) : Scanner α := do failAt (← get) cause

/-- The next character, if there is one. -/
def peek : Scanner (Option Char) := do return (← read)[← get]?

/-- Moves on by some characters. -/
def skip (count : Nat) : Scanner Unit := modify (· + count)

/-- The characters between two positions. -/
def slice (start stop : Nat) : Scanner (List Char) := do
  return ((← read).extract start stop).toList

/-- Whether a text stands at the current position. -/
def looksAt (text : String) : Scanner Bool := do
  return (← slice (← get) ((← get) + text.length)) == text.toList

/-- Moves past a text if it stands at the current position, and tells whether it does. -/
def accept (text : String) : Scanner Bool := do
  if ← looksAt text then
    skip text.length
    return true
  else return false

/-- Moves past a run of characters of a class, and gives the run. -/
def run (inClass : Char → Bool) : Scanner (List Char) := do
  let start ← get
  let stop := Cursor.runEnd inClass (← read) start
  set stop
  slice start stop

/-- Whether a character separates words within a line. -/
def isBlank (c : Char) : Bool := c == ' ' || c == '\t'

/-- Whether a character separates values within an array. -/
def isBlankOrBreak (c : Char) : Bool := isBlank c || c == '\n'

/-- Whether a character is a control character of the ASCII table. -/
def isControl (c : Char) : Bool := c.toNat < 0x20 || c.toNat == 0x7F

/-- Whether a character may not stand in one line of text. -/
def isIllegal (c : Char) : Bool := isControl c && c != '\t'

/-- Whether a character may not stand in a text of several lines. -/
def isIllegalInLines (c : Char) : Bool := isIllegal c && c != '\n'

/-- Skips blanks. -/
def skipBlanks : Scanner Unit := do let _ ← run isBlank

/-- The first position from `position` on at which a text stands, if there is one. -/
def find? (source : Array Char) (text : List Char) : Nat → Nat → Option Nat
  | 0, _ => none
  | rounds + 1, position =>
    if (source.extract position (position + text.length)).toList == text then some position
    else find? source text rounds (position + 1)

/-- Moves to the next place where a delimiter stands, or to the end of the document, and
gives the characters on the way.  Some characters are faults there, and so is the end where
the delimiter must come. -/
def upTo (delimiter : String) (illegal : Char → Bool) (mustCome : Bool) :
    Scanner (List Char) := do
  let source ← read
  let start ← get
  let found := find? source delimiter.toList (source.size + 1 - start) start
  if found.isNone && mustCome then failAt source.size (.expected delimiter)
  else
    let stop := found.getD source.size
    let passed ← slice start stop
    match passed.find? illegal with
    | some c =>
      failAt (start + (passed.takeWhile fun c => !illegal c).length) (.invalidCharacter c)
    | none =>
      set stop
      return passed

/-- Skips a comment, if one begins here. -/
def skipComment : Scanner Unit := do
  if (← peek) == some '#' then
    skip 1
    let _ ← upTo "\n" isIllegal false

/-- Skips blanks, line breaks and comments. -/
def skipBetweenItems : Nat → Scanner Unit
  | 0 => pure ()
  | rounds + 1 => do
    let before ← get
    let _ ← run isBlankOrBreak
    skipComment
    if (← get) ≠ before then skipBetweenItems rounds

/-! ## Texts -/

/-- Whether a character is a hexadecimal digit. -/
def isHex (c : Char) : Bool :=
  c.isDigit || ('a' ≤ c && c ≤ 'f') || ('A' ≤ c && c ≤ 'F')

/-- The value of a hexadecimal digit. -/
def hexDigit (c : Char) : Nat :=
  if c.isDigit then c.toNat - 0x30
  else if 'a' ≤ c then c.toNat - 0x61 + 10
  else c.toNat - 0x41 + 10

/-- The number that hexadecimal digits write. -/
def hexValue (digits : List Char) : Nat := digits.foldl (fun n c => 16 * n + hexDigit c) 0

/-- Reads the character whose number has a given count of hexadecimal digits. -/
def numberedChar (count : Nat) : Scanner (List Char) := do
  let start ← get
  let digits ← slice start (start + count)
  if digits.length ≠ count || !digits.all isHex then fail .hexadecimal
  else
    skip count
    let n := hexValue digits
    if n < 0xD800 || (0xDFFF < n && n < 0x110000) then return [Char.ofNat n]
    else fail .notAScalar

/-- The character that a letter behind a backslash stands for. -/
def escaped? : Char → Option Char
  | 'b' => some '\x08'
  | 't' => some '\t'
  | 'n' => some '\n'
  | 'f' => some '\x0c'
  | 'r' => some '\r'
  | '"' => some '"'
  | '\\' => some '\\'
  | _ => none

/-- Reads the rest of a line of blanks behind a backslash, and the blanks and line breaks
after it.  They stand for nothing. -/
def continuation (blankFirst : Bool) : Scanner (List Char) := do
  if blankFirst then
    skipBlanks
    match ← peek with
    | none => return []
    | some '\n' =>
      skip 1
      let _ ← run isBlankOrBreak
      return []
    | some _ => fail .escape
  else
    let _ ← run isBlankOrBreak
    return []

/-- Reads what begins with a backslash.  The flag says whether the text may have several
lines. -/
def escapeSequence (lines : Bool) : Scanner (List Char) := do
  skip 1
  let next ← peek
  skip 1
  match next with
  | none => fail .escape
  | some c =>
    if lines && isBlankOrBreak c then continuation (c != '\n')
    else if c == 'u' then numberedChar 4
    else if c == 'U' then numberedChar 8
    else match escaped? c with
      | some meant => return [meant]
      | none => fail .escape

/-- Reads the rest of a text in double quotes, behind what has been read of it, which stands
in reverse. -/
def quotedRest (lines : Bool) : Nat → List Char → Scanner (List Char)
  | 0, _ => fail .unterminated
  | rounds + 1, text => do
    match ← peek with
    | none => fail .unterminated
    | some '"' =>
      if !lines then
        skip 1
        return text.reverse
      else if ← accept "\"\"\"" then return text.reverse
      else
        skip 1
        quotedRest lines rounds ('"' :: text)
    | some '\\' =>
      let meant ← escapeSequence lines
      quotedRest lines rounds (meant.reverse ++ text)
    | some c =>
      if (if lines then isIllegalInLines c else isIllegal c) then fail (.illegal c)
      else
        skip 1
        quotedRest lines rounds (c :: text)

/-- The number of rounds that reading on may take. -/
def rounds : Scanner Nat := do return (← read).size + 1

/-- Reads a line of text in double quotes. -/
def quotedLine : Scanner (List Char) := do
  skip 1
  quotedRest false (← rounds) []

/-- Reads a line of text in single quotes, in which nothing is escaped. -/
def literalLine : Scanner (List Char) := do
  skip 1
  let text ← upTo "'" isIllegal true
  skip 1
  return text

/-- Reads up to two more quotes behind a text of several lines; they belong to it. -/
def moreQuotes (quote : String) (text : List Char) : Scanner (List Char) := do
  if !(← accept quote) then return text
  else if !(← accept quote) then return text ++ quote.toList
  else return text ++ quote.toList ++ quote.toList

/-- Reads a text of several lines.  A line break directly behind the opening quotes is not
part of it. -/
def lines (literal : Bool) : Scanner (List Char) := do
  skip 3
  let _ ← accept "\n"
  if literal then
    let text ← upTo "'''" isIllegalInLines true
    skip 3
    moreQuotes "'" text
  else
    let text ← quotedRest true (← rounds) []
    moreQuotes "\"" text

/-! ## Keys -/

/-- Whether a character may stand in a key without quotes. -/
def isKeyChar (c : Char) : Bool := c.isAlphanum || c == '-' || c == '_'

/-- Reads one part of a key. -/
def keyPart : Scanner String := do
  match ← peek with
  | some '\'' => return String.ofList (← literalLine)
  | some '"' => return String.ofList (← quotedLine)
  | some c => if isKeyChar c then return String.ofList (← run isKeyChar) else fail .keyStart
  | none => fail .keyStart

/-- Reads the parts of a key behind those already read, which stand in reverse. -/
def keyRest : Nat → List String → Scanner (List String)
  | 0, parts => return parts.reverse
  | rounds + 1, parts => do
    skipBlanks
    if ← accept "." then
      skipBlanks
      let part ← keyPart
      keyRest rounds (part :: parts)
    else return parts.reverse

/-- Reads a key. -/
def key : Scanner (List String) := do
  let first ← keyPart
  keyRest (← rounds) [first]

end Scanner

end Toml

end Reckon
