import Reckon.Text.Printable

/-!
# Quoted texts

A text shown inside a message stands in quotes, and what could not be seen or would end
the quotation is escaped.  The quotes are single ones, unless the text holds a single
quote and no double one.  A backslash and the quote in use are preceded by a backslash;
the line break, the carriage return and the tab have letters of their own; every other
character that is not printable is given by its number.
-/

namespace Reckon

namespace Quoted

/-- The quote to put around a text. -/
def quoteFor (text : List Char) : Char :=
  if text.contains '\'' && !text.contains '"' then '"' else '\''

/-- A number in lowercase hexadecimal, with zeros in front up to a width. -/
def hex (width n : Nat) : List Char :=
  let digits := Nat.toDigits 16 n
  List.replicate (width - digits.length) '0' ++ digits

/-- One character of a quoted text. -/
def escape (quote c : Char) : List Char :=
  if c = quote || c = '\\' then ['\\', c]
  else if c = '\n' then ['\\', 'n']
  else if c = '\r' then ['\\', 'r']
  else if c = '\t' then ['\\', 't']
  else if isPrintable c then [c]
  else if c.toNat < 0x100 then '\\' :: 'x' :: hex 2 c.toNat
  else if c.toNat < 0x10000 then '\\' :: 'u' :: hex 4 c.toNat
  else '\\' :: 'U' :: hex 8 c.toNat

/-- A text in its quotes. -/
def encode (text : List Char) : List Char :=
  quoteFor text :: (text.flatMap (escape (quoteFor text)) ++ [quoteFor text])

end Quoted

/-- A text in quotes, with escapes. -/
def quoted (text : String) : String := String.ofList (Quoted.encode text.toList)

end Reckon
