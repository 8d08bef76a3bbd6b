import Reckon.Token

/-!
# Reading ahead in a source

A cursor stands at a position in a source and remembers where it started.  A matcher
reads through a cursor of its own; the position counts only if the matcher succeeds, so
an attempt that fails has nothing to undo.

The start may lie past the end of the source, and so may the position: asking for the
empty text succeeds at the end and still moves on.  The text read so far is the part of
the source between start and position, which at worst is less than the distance between
them.

## What every reading keeps

`Reaches` says that one cursor comes from another by reading: same source, same start,
a position not before.  Every operation below reaches, and so does every sequence of
them; the lexer needs nothing else to come to an end.
-/

namespace Reckon

/-- A position in a source, and where the reading began. -/
structure Cursor where
  source : Array Char
  start : Nat
  position : Nat
  deriving DecidableEq, Repr

namespace Cursor

/-- A fresh cursor. -/
def begin (source : Array Char) (start : Nat) : Cursor := ⟨source, start, start⟩

/-- Everything read since the cursor was fresh. -/
def text (cursor : Cursor) : String :=
  String.ofList (cursor.source.extract cursor.start cursor.position).toList

/-- Whether the source is used up. -/
def atEnd (cursor : Cursor) : Bool := cursor.source.size ≤ cursor.position

/-- The next character, or nothing past the end, as a text. -/
def ahead (cursor : Cursor) : String :=
  match cursor.source[cursor.position]? with
  | some c => String.singleton c
  | none => ""

/-- The character at a distance from the position, as a text.  Past the end it is empty;
before the beginning it is counted from the end, and where that too is before the
beginning there is no answer. -/
def peek? (cursor : Cursor) (offset : Int) : Option String :=
  let index := cursor.position + offset
  if cursor.source.size ≤ index then some ""
  else (Token.place? cursor.source.size index).bind fun place =>
    cursor.source[place]?.map String.singleton

/-- The first position from `position` on whose character is outside a class, or the end
of the source. -/
def runEnd (inClass : Char → Bool) (source : Array Char) (position : Nat) : Nat :=
  if h : position < source.size then
    if inClass source[position] then runEnd inClass source (position + 1) else position
  else position
termination_by source.size - position

/-- Moves past the next character, if there is one, and answers it. -/
def advance (cursor : Cursor) : String × Cursor :=
  match cursor.source[cursor.position]? with
  | some c => (String.singleton c, { cursor with position := cursor.position + 1 })
  | none => ("", cursor)

/-- Moves on by one if the wanted text is what stands ahead, and answers whether it is. -/
def readChar (cursor : Cursor) (want : String) : Bool × Cursor :=
  if cursor.ahead = want then (true, { cursor with position := cursor.position + 1 })
  else (false, cursor)

/-- Reads the longest run of characters of a class. -/
def readRun (cursor : Cursor) (inClass : Char → Bool) : String × Cursor :=
  let stop := runEnd inClass cursor.source cursor.position
  (String.ofList (cursor.source.extract cursor.position stop).toList,
    { cursor with position := stop })

/-- Whether a character lies between two texts in the order of texts. -/
def isBetween (low high : String) (c : Char) : Bool :=
  decide (low ≤ String.singleton c) && decide (String.singleton c ≤ high)

/-- Reads the longest run of characters between two texts. -/
def readBetween (cursor : Cursor) (low high : String) : String × Cursor :=
  cursor.readRun (isBetween low high)

/-- Reads the longest run of characters that occur in a text. -/
def readWhile (cursor : Cursor) (characters : String) : String × Cursor :=
  cursor.readRun fun c => characters.toList.contains c

/-- Reads digits, and after them a point with any digits behind it. -/
def readNumber (cursor : Cursor) : String × Cursor :=
  let (whole, afterWhole) := cursor.readRun Char.isDigit
  if whole = "" then ("", cursor)
  else
    let (point, afterPoint) := afterWhole.readChar "."
    if point then
      let (fraction, afterFraction) := afterPoint.readRun Char.isDigit
      (whole ++ "." ++ fraction, afterFraction)
    else (whole, afterWhole)

/-! ## What reading keeps -/

/-- Whether one cursor comes from another by reading. -/
structure Reaches (before after : Cursor) : Prop where
  source : after.source = before.source
  start : after.start = before.start
  position : before.position ≤ after.position

theorem Reaches.refl (cursor : Cursor) : Reaches cursor cursor := ⟨rfl, rfl, Nat.le_refl _⟩

theorem Reaches.trans {a b c : Cursor} (hab : Reaches a b) (hbc : Reaches b c) : Reaches a c :=
  ⟨hbc.source.trans hab.source, hbc.start.trans hab.start,
    Nat.le_trans hab.position hbc.position⟩

theorem le_runEnd (inClass : Char → Bool) (source : Array Char) (position : Nat) :
    position ≤ runEnd inClass source position := by
  fun_induction runEnd inClass source position with
  | case1 position _ _ ih => exact Nat.le_trans (Nat.le_succ _) ih
  | case2 => exact Nat.le_refl _
  | case3 => exact Nat.le_refl _

theorem reaches_advance (cursor : Cursor) : Reaches cursor cursor.advance.2 := by
  unfold advance
  split
  · exact ⟨rfl, rfl, Nat.le_succ _⟩
  · exact .refl _

theorem reaches_readChar (cursor : Cursor) (want : String) :
    Reaches cursor (cursor.readChar want).2 := by
  unfold readChar
  split
  · exact ⟨rfl, rfl, Nat.le_succ _⟩
  · exact .refl _

theorem reaches_readRun (cursor : Cursor) (inClass : Char → Bool) :
    Reaches cursor (cursor.readRun inClass).2 :=
  ⟨rfl, rfl, le_runEnd _ _ _⟩

theorem reaches_readNumber (cursor : Cursor) : Reaches cursor cursor.readNumber.2 := by
  unfold readNumber
  dsimp only
  split
  · exact .refl _
  · split <;> dsimp only
    · exact ((reaches_readRun _ _).trans (reaches_readChar _ _)).trans (reaches_readRun _ _)
    · exact reaches_readRun _ _

/-! ## What is still to be read

`rest` is the view through which the operations are understood: a run takes the longest
beginning of it that lies in the class, and leaves what remains. -/

/-- What is still to be read. -/
def rest (cursor : Cursor) : List Char := cursor.source.toList.drop cursor.position

/-- The next character is the head of what is still to be read. -/
theorem ahead_eq (cursor : Cursor) :
    cursor.ahead = (cursor.rest.head?.map String.singleton).getD "" := by
  simp only [ahead, rest, List.head?_drop, Array.getElem?_toList]
  split <;> simp_all

/-- A run ends behind the longest beginning of the class. -/
theorem runEnd_eq (inClass : Char → Bool) (source : Array Char) (position : Nat) :
    runEnd inClass source position =
      position + ((source.toList.drop position).takeWhile inClass).length := by
  fun_induction runEnd inClass source position with
  | case1 position h inside ih =>
    rw [List.drop_eq_getElem_cons (by simpa using h), List.takeWhile_cons_of_pos (by simpa),
      ih, List.length_cons]
    omega
  | case2 position h outside =>
    rw [List.drop_eq_getElem_cons (by simpa using h),
      List.takeWhile_cons_of_neg (by simpa using outside)]
    rfl
  | case3 position h =>
    rw [List.drop_eq_nil_of_le (by simpa using h)]
    rfl

/-- A run reads the longest beginning of the class. -/
theorem readRun_fst (cursor : Cursor) (inClass : Char → Bool) :
    (cursor.readRun inClass).1 = String.ofList (cursor.rest.takeWhile inClass) := by
  simp only [readRun, rest, runEnd_eq, Array.toList_extract, List.extract_eq_take_drop,
    Nat.add_sub_cancel_left]
  exact congrArg String.ofList (List.prefix_iff_eq_take.1 (List.takeWhile_prefix _)).symm

/-- A run leaves what stands behind the longest beginning of the class. -/
theorem rest_readRun (cursor : Cursor) (inClass : Char → Bool) :
    (cursor.readRun inClass).2.rest = cursor.rest.dropWhile inClass := by
  have length_drop (text : List Char) :
      text.drop (text.takeWhile inClass).length = text.dropWhile inClass := by
    induction text with
    | nil => rfl
    | cons c text ih => by_cases h : inClass c <;> simp [h, ih]
  simp only [readRun, rest, runEnd_eq, ← List.drop_drop, length_drop]

/-- Nothing has been read while the position is not past the start. -/
theorem text_eq_empty {cursor : Cursor} (h : cursor.position ≤ cursor.start) :
    cursor.text = "" := by
  simp [text, h]

/-! ## Readings as data -/

/-- One operation on a cursor. -/
inductive Action where
  | peek (offset : Int)
  | advance
  | readChar (want : String)
  | readBetween (low high : String)
  | readWhile (characters : String)
  | readNumber
  | atEnd
  | position
  | text
  deriving DecidableEq, Repr

/-- What an operation answers. -/
inductive Answer where
  | text (text : String)
  | truth (truth : Bool)
  | position (position : Nat)
  | outOfRange
  deriving DecidableEq, Repr

/-- The text of the answer to a look before the beginning of the source. -/
def outOfRangeMessage : String := "string index out of range"

/-- Whether an answer counts as success: anything but a no and an empty text. -/
def Answer.isSuccess : Answer → Bool
  | .text found => found ≠ ""
  | .truth yes => yes
  | _ => true

/-- Carries out an operation. -/
def perform (cursor : Cursor) : Action → Answer × Cursor
  | .peek offset =>
    (match cursor.peek? offset with
      | some text => .text text
      | none => .outOfRange, cursor)
  | .advance => (.text cursor.advance.1, cursor.advance.2)
  | .readChar want => (.truth (cursor.readChar want).1, (cursor.readChar want).2)
  | .readBetween low high =>
    (.text (cursor.readBetween low high).1, (cursor.readBetween low high).2)
  | .readWhile characters =>
    (.text (cursor.readWhile characters).1, (cursor.readWhile characters).2)
  | .readNumber => (.text cursor.readNumber.1, cursor.readNumber.2)
  | .atEnd => (.truth cursor.atEnd, cursor)
  | .position => (.position cursor.position, cursor)
  | .text => (.text cursor.text, cursor)

theorem reaches_perform (cursor : Cursor) (action : Action) :
    Reaches cursor (cursor.perform action).2 := by
  cases action with
  | advance => exact reaches_advance _
  | readChar want => exact reaches_readChar _ _
  | readBetween low high => exact reaches_readRun _ _
  | readWhile characters => exact reaches_readRun _ _
  | readNumber => exact reaches_readNumber _
  | peek offset => exact .refl _
  | atEnd => exact .refl _
  | position => exact .refl _
  | text => exact .refl _

/-- Carries out operations in turn.  The result holds each answer with the cursor behind
it. -/
def performAll (cursor : Cursor) : List Action → List (Answer × Cursor)
  | [] => []
  | action :: rest =>
    let done := cursor.perform action
    done :: performAll done.2 rest

end Cursor

end Reckon
