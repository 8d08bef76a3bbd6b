import Reckon.Text.Blank
import Reckon.Text.DecimalDigit

/-!
# Digits inside a numeral

What whole and real numerals share.  Digits of any script are read as the ASCII ones,
the numeral may have blanks around it, and an underscore may stand between two digits.
-/

namespace Reckon

namespace Numeral

/-- The ASCII character that stands for a character of a numeral: a digit of another
script is the digit it is worth, and any other blank is a space. -/
def plain (c : Char) : Char :=
  if c.toNat < 0x7F then c
  else if isBlank c then ' '
  else match decimalDigit? c with
    | some value => Char.ofNat (0x30 + value)
    | none => c

/-- The characters of a numeral without the blanks around it. -/
def core (text : String) : List Char := trimBoth isPlainBlank (text.toList.map plain)

/-- The text without its underscores, if each of them stands between two digits.  The
first argument is the character before the text. -/
def dropUnderscores (before : Char) : List Char → Option (List Char)
  | [] => some []
  | ['_'] => none
  | '_' :: c :: rest =>
    if before.isDigit && c.isDigit then (dropUnderscores c rest).map (c :: ·) else none
  | c :: rest => (dropUnderscores c rest).map (c :: ·)

/-- The value of an ASCII digit. -/
def digitValue (c : Char) : Nat := c.toNat - 0x30

/-- The number that a run of digits writes. -/
def value (digits : List Char) : Nat := digits.foldl (fun n c => 10 * n + digitValue c) 0

/-- A sign, where there is one, and what follows it. -/
def splitSign : List Char → Bool × List Char
  | '-' :: rest => (true, rest)
  | '+' :: rest => (false, rest)
  | text => (false, text)

end Numeral

end Reckon
