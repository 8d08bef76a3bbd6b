/-!
# Lines

A text falls into lines at every line break: the line feed, the carriage return, the
two of them together as one, the vertical tab, the form feed, three of the information
separators, the next-line control, and the line and paragraph separators.  A break
belongs to the line that it ends, and a break at the end of the text opens no further
line.

## From the right

`Line.ofText` is a fold from the right: a new character either ends a line of its own,
joins the first line of what follows, or, when it is a carriage return before a line
that is nothing but a line feed, joins that line's break.  So the lines of `c :: text`
are the lines of `text` changed in their first element only.
-/

namespace Reckon

/-- Whether a character breaks a line. -/
def isLineBreak (c : Char) : Bool :=
  c == '\n' || c == '\r' || c == '\x0b' || c == '\x0c' || c == '\x1c' || c == '\x1d'
    || c == '\x1e' || c == '\u0085' || c == '\u2028' || c == '\u2029'

/-- A line of a text: what stands on it, and the break that ends it.  Only the last line
may have no break. -/
structure Line where
  content : List Char
  ending : List Char
  deriving DecidableEq, Repr

namespace Line

/-- The line with a character put in front. -/
def consTo (c : Char) : List Line → List Line
  | [] => [⟨[c], []⟩]
  | line :: rest => ⟨c :: line.content, line.ending⟩ :: rest

/-- The line feed that a carriage return before it would join. -/
def loneFeed : Line := ⟨[], ['\n']⟩

/-- The lines of a text with one more character in front. -/
def push (c : Char) (lines : List Line) : List Line :=
  if isLineBreak c then
    if c = '\r' ∧ lines.head? = some loneFeed then ⟨[], ['\r', '\n']⟩ :: lines.tail
    else ⟨[], [c]⟩ :: lines
  else consTo c lines

/-- The lines of a text. -/
def ofText (text : List Char) : List Line := text.foldr push []

@[simp] theorem ofText_nil : ofText [] = [] := by simp only [ofText, List.foldr_nil]

@[simp] theorem ofText_cons (c : Char) (text : List Char) :
    ofText (c :: text) = push c (ofText text) := by
  simp only [ofText, List.foldr_cons]

/-- The line as a text, without its break. -/
def text (line : Line) : String := String.ofList line.content

/-- The characters of the line with its break. -/
def full (line : Line) : List Char := line.content ++ line.ending

/-- The lines of a text with their breaks, joined, are the text. -/
theorem flatMap_full_ofText (text : List Char) : (ofText text).flatMap full = text := by
  induction text with
  | nil => simp
  | cons c text ih =>
    rw [ofText_cons]
    unfold push
    split
    · split
      · next h =>
        obtain ⟨rfl, first⟩ := h
        obtain ⟨rest, lines⟩ := List.head?_eq_some_iff.1 first
        rw [lines] at ih ⊢
        rw [← ih]
        rfl
      · rw [List.flatMap_cons, ih]
        rfl
    · generalize ofText text = lines at ih
      cases lines with
      | nil => rw [← ih]; rfl
      | cons line rest => rw [← ih]; rfl

end Line

end Reckon
