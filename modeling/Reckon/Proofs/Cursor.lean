import Reckon.Proofs.Lexer.Stray

/-!
# What any sequence of readings keeps

A matcher may carry out the operations of a cursor in any order and with any arguments, and it may
start past the end of the source.  Whatever it does, the cursor only goes forward, and its text is
made up of the pieces that the operations took, in order (`readings_keep`).  The check of a token
against the text of the cursor rests on this.

## Pieces

Each operation takes a piece off what is still to be read and appends the same piece to the text:
`Takes`.  For most operations the piece is the answer, for a wanted text it is that text, and an
operation that fails takes nothing.  The position alone would not tell, since asking for the empty
text at the end moves on and takes nothing.  Pieces that follow each other are one piece, so a
number, which is digits, a point and digits again, needs no argument of its own, and neither does a
sequence of operations (`takes_perform`, `takes_behind`).

## How far a reading goes

A run stops where the source ends or a character outside its class stands ahead (`RunsOver`).  A
number is the longest plain numeral that what is ahead begins with, if it begins with one at all
(`ReadsNumeral`): behind a number stands no digit, and a point stands there only if the number has
one, so nothing longer would be a plain numeral.
-/

namespace Reckon

/-- A plain numeral cannot be continued where no digit follows, nor a point unless it has one. -/
theorem Numeral.IsPlain.isPrefix_of_isPrefix {text following other : List Char}
    (outside : ∀ c ∈ following.head?, c.isDigit = false)
    (point : '.' ∈ following.head? → '.' ∈ text) (plain : IsPlain other)
    (begins : other <+: text ++ following) : other <+: text := by
  rcases List.prefix_or_prefix_of_prefix begins (List.prefix_append text following) with
    shorter | ⟨more, rfl⟩
  · exact shorter
  · cases more with
    | nil => exact ⟨[], (List.append_nil _).trans (List.append_nil text)⟩
    | cons c more =>
      have ahead : c ∈ following.head? := by
        obtain ⟨behind, rfl⟩ := (List.prefix_append_right_inj text).1 begins
        rfl
      obtain rfl : c = '.' := by
        have mem : c ∈ text ++ c :: more := List.mem_append_right _ (List.mem_cons_self ..)
        refine (plain.mem mem).resolve_left fun digit => ?_
        rw [outside c ahead] at digit
        exact absurd digit (by simp)
      exact absurd (plain.digits_of_split.2 '.' (point ahead)) (by decide)

namespace Cursor

/-! ## Pieces -/

/-- Whether one cursor comes from another by taking a piece off what is still to be read. -/
structure Takes (before : Cursor) (piece : String) (after : Cursor) : Prop where
  reaches : before.Reaches after
  rest : before.rest = piece.toList ++ after.rest
  text : before.start ≤ before.position → after.text = before.text ++ piece

theorem Takes.nothing (cursor : Cursor) : Takes cursor "" cursor :=
  ⟨.refl cursor, rfl, fun _ => String.append_empty.symm⟩

theorem Takes.trans {a b c : Cursor} {first second : String} (h : Takes a first b)
    (h' : Takes b second c) : Takes a (first ++ second) c where
  reaches := h.reaches.trans h'.reaches
  rest := by rw [h.rest, h'.rest, String.toList_append, List.append_assoc]
  text := by
    intro started
    rw [h'.text (h.reaches.start_le started), h.text started, String.append_assoc]

variable (cursor : Cursor)

/-- Moving on by one takes what stands ahead, which is nothing at the end. -/
theorem takes_ahead : Takes cursor cursor.ahead { cursor with position := cursor.position + 1 } where
  reaches := ⟨rfl, rfl, Nat.le_succ _⟩
  rest := by
    have behind : ({ cursor with position := cursor.position + 1 } : Cursor).rest =
        cursor.rest.tail := (List.tail_drop ..).symm
    rw [behind, ahead_eq]
    cases cursor.rest with
    | nil => rfl
    | cons c tail =>
      show c :: tail = (String.singleton c).toList ++ tail
      rw [String.toList_singleton]
      rfl
  text := by
    intro started
    have read : cursor.readChar cursor.ahead =
        (true, { cursor with position := cursor.position + 1 }) := if_pos rfl
    have appended := @text_readChar cursor cursor.ahead started (by rw [read])
    rwa [read] at appended

theorem advance_eq_of_some {c : Char} (here : cursor.source[cursor.position]? = some c) :
    cursor.advance = (cursor.ahead, { cursor with position := cursor.position + 1 }) := by
  rw [advance, ahead, here]

theorem advance_eq_of_none (past : cursor.source[cursor.position]? = none) :
    cursor.advance = ("", cursor) := by
  rw [advance, past]

theorem takes_advance : Takes cursor cursor.advance.1 cursor.advance.2 := by
  cases here : cursor.source[cursor.position]? with
  | some c =>
    rw [cursor.advance_eq_of_some here]
    exact cursor.takes_ahead
  | none =>
    rw [cursor.advance_eq_of_none here]
    exact .nothing cursor

/-- A wanted text that does not stand ahead leaves the cursor as it was. -/
theorem readChar_of_missed {want : String} (missed : (cursor.readChar want).1 = false) :
    cursor.readChar want = (false, cursor) := by
  unfold readChar at missed ⊢
  split at missed
  · exact absurd missed (by simp)
  · next other => exact if_neg other

/-- A wanted text that is found is taken. -/
theorem takes_readChar {want : String} (found : (cursor.readChar want).1 = true) :
    Takes cursor want (cursor.readChar want).2 := by
  unfold readChar at found ⊢
  split at found
  · next same =>
    rw [if_pos same, ← same]
    exact cursor.takes_ahead
  · exact absurd found (by simp)

theorem takes_readRun (inClass : Char → Bool) :
    Takes cursor (cursor.readRun inClass).1 (cursor.readRun inClass).2 where
  reaches := reaches_readRun cursor inClass
  rest := by
    rw [readRun_fst, rest_readRun, String.toList_ofList, List.takeWhile_append_dropWhile]
  text := fun started => text_readRun started inClass

/-- A number is taken as digits, a point and digits, or as digits alone. -/
theorem takes_readNumber : Takes cursor cursor.readNumber.1 cursor.readNumber.2 := by
  have whole := cursor.takes_readRun Char.isDigit
  unfold readNumber
  dsimp only
  split
  · exact .nothing cursor
  · split
    · next point =>
      exact (whole.trans (takes_readChar _ point)).trans (takes_readRun _ Char.isDigit)
    · exact whole

/-- The piece that an operation takes, told from its answer: what was wanted where it was found, and
otherwise what was read. -/
def Action.piece : Action → Answer → String
  | .advance, .text found => found
  | .readChar want, .truth true => want
  | .readBetween _ _, .text found => found
  | .readWhile _, .text found => found
  | .readNumber, .text found => found
  | _, _ => ""

/-- **An operation takes its piece**, and nothing else. -/
theorem takes_perform (action : Action) :
    Takes cursor (action.piece (cursor.perform action).1) (cursor.perform action).2 := by
  cases action with
  | advance => exact cursor.takes_advance
  | readChar want =>
    by_cases found : (cursor.readChar want).1 = true
    · simp only [perform, found]
      exact cursor.takes_readChar found
    · have missed := cursor.readChar_of_missed (Bool.eq_false_iff.2 found)
      simp only [perform, missed]
      exact .nothing cursor
  | readBetween low high => exact cursor.takes_readRun _
  | readWhile characters => exact cursor.takes_readRun _
  | readNumber => exact cursor.takes_readNumber
  | peek offset => exact .nothing cursor
  | atEnd => exact .nothing cursor
  | position => exact .nothing cursor
  | text => exact .nothing cursor

/-! ## Operations that fail -/

/-- A run that reads nothing does not move. -/
theorem readRun_of_eq_empty {inClass : Char → Bool} (nothing : (cursor.readRun inClass).1 = "") :
    (cursor.readRun inClass).2 = cursor := by
  rw [readRun_fst, String.ofList_eq_empty_iff] at nothing
  show ({ cursor with position := runEnd inClass cursor.source cursor.position } : Cursor) = _
  rw [runEnd_eq]
  exact congrArg (fun run => ({ cursor with position := cursor.position + run.length } : Cursor))
    nothing

theorem readNumber_of_eq_empty (nothing : cursor.readNumber.1 = "") :
    cursor.readNumber.2 = cursor := by
  unfold readNumber at nothing ⊢
  dsimp only at nothing ⊢
  split at nothing
  · next no_digit => rw [if_pos no_digit]
  · next some_digit =>
    split at nothing
    · rw [String.append_eq_empty_iff, String.append_eq_empty_iff] at nothing
      exact absurd nothing.1.1 some_digit
    · exact absurd nothing some_digit

/-- An answer in words counts as a failure only if it is empty. -/
theorem Answer.eq_empty_of_failure {found : String}
    (failed : (text found).isSuccess = false ∨ text found = .outOfRange) : found = "" := by
  simpa [isSuccess] using failed

/-- **An operation that fails does not move**, and neither does a look before the beginning of the
source. -/
theorem perform_of_failure {action : Action}
    (failed : (cursor.perform action).1.isSuccess = false ∨
      (cursor.perform action).1 = .outOfRange) : (cursor.perform action).2 = cursor := by
  cases action with
  | advance =>
    have nothing : cursor.advance.1 = "" := Answer.eq_empty_of_failure failed
    cases here : cursor.source[cursor.position]? with
    | some c =>
      rw [advance, here] at nothing
      exact absurd nothing (by simp)
    | none => exact congrArg Prod.snd (cursor.advance_eq_of_none here)
  | readChar want =>
    have missed : (cursor.readChar want).1 = false := by
      simpa [perform, Answer.isSuccess] using failed
    exact congrArg Prod.snd (cursor.readChar_of_missed missed)
  | readBetween low high =>
    exact cursor.readRun_of_eq_empty (Answer.eq_empty_of_failure failed)
  | readWhile characters =>
    exact cursor.readRun_of_eq_empty (Answer.eq_empty_of_failure failed)
  | readNumber =>
    exact cursor.readNumber_of_eq_empty (Answer.eq_empty_of_failure failed)
  | peek offset => rfl
  | atEnd => rfl
  | position => rfl
  | text => rfl

/-! ## How far a reading goes -/

/-- Whether a piece lies within a class, and the reading of it stopped where the source ends or a
character outside the class stands ahead. -/
structure RunsOver (Inside : Char → Prop) (piece : String) (after : Cursor) : Prop where
  inside : ∀ c ∈ piece.toList, Inside c
  stops : after.atEnd = true ∨ ∃ c, after.ahead = String.singleton c ∧ ¬Inside c

/-- Whether the longest plain numeral ahead was read, or nothing where there is none. -/
def ReadsNumeral (before : Cursor) (piece : String) (after : Cursor) : Prop :=
  (Numeral.IsPlain piece.toList ∧
    ∀ text, Numeral.IsPlain text → text <+: before.rest → text <+: piece.toList) ∨
  (piece = "" ∧ after = before ∧ ∀ text, Numeral.IsPlain text → ¬text <+: before.rest)

/-- At the end there is nothing to be read, and elsewhere the next character stands ahead. -/
theorem atEnd_or_ahead : cursor.atEnd = true ∨
    ∃ c, c ∈ cursor.rest.head? ∧ cursor.ahead = String.singleton c := by
  cases head : cursor.rest.head? with
  | none =>
    rw [List.head?_eq_none_iff, rest, List.drop_eq_nil_iff, Array.length_toList] at head
    exact .inl (decide_eq_true head)
  | some c =>
    rw [ahead_eq, head]
    exact .inr ⟨c, rfl, rfl⟩

theorem runsOver_readRun {inClass : Char → Bool} {Inside : Char → Prop}
    (same : ∀ c, inClass c = true ↔ Inside c) :
    RunsOver Inside (cursor.readRun inClass).1 (cursor.readRun inClass).2 where
  inside := fun c mem => (same c).1 (inClass_of_mem_readRun mem)
  stops := by
    refine (atEnd_or_ahead _).imp_right fun ⟨c, ahead, shown⟩ => ⟨c, shown, ?_⟩
    rw [← same, Lexer.outside_of_readRun ahead]
    simp

theorem readsNumeral_readNumber : ReadsNumeral cursor cursor.readNumber.1 cursor.readNumber.2 := by
  by_cases nothing : cursor.readNumber.1 = ""
  · refine .inr ⟨nothing, cursor.readNumber_of_eq_empty nothing, ?_⟩
    rintro text plain ⟨following, split⟩
    obtain ⟨c, rest, rfl, digit⟩ := plain.head
    have ahead : c ∈ cursor.rest.head? := by
      rw [← split]
      rfl
    exact readNumber_ne_empty ahead digit nothing
  · refine .inl ⟨isPlain_readNumber nothing, fun text plain begins => ?_⟩
    rw [cursor.takes_readNumber.rest] at begins
    exact plain.isPrefix_of_isPrefix (fun c => Lexer.not_isDigit_of_readNumber nothing)
      (point_mem_readNumber nothing) begins

/-! ## Sequences of operations -/

/-- The cursor behind operations. -/
def behind (actions : List Action) : Cursor :=
  actions.foldl (fun cursor action => (cursor.perform action).2) cursor

/-- The pieces that operations take, in order. -/
def pieces (cursor : Cursor) : List Action → List String
  | [] => []
  | action :: rest =>
    action.piece (cursor.perform action).1 :: pieces (cursor.perform action).2 rest

theorem behind_append (front back : List Action) :
    cursor.behind (front ++ back) = (cursor.behind front).behind back := List.foldl_append ..

/-- Operations are carried out in turn, each on the cursor behind those before it. -/
theorem performAll_append (front back : List Action) :
    cursor.performAll (front ++ back) =
      cursor.performAll front ++ (cursor.behind front).performAll back := by
  induction front generalizing cursor with
  | nil => rfl
  | cons action front ih => exact congrArg (cursor.perform action :: ·) (ih _)

/-- **Operations in turn take their pieces in order.** -/
theorem takes_behind (actions : List Action) :
    Takes cursor (String.join (cursor.pieces actions)) (cursor.behind actions) := by
  induction actions generalizing cursor with
  | nil => exact .nothing cursor
  | cons action rest ih =>
    rw [pieces, String.join_cons]
    exact (cursor.takes_perform action).trans (ih _)

/-- **Whatever is read, and in whatever order**, also where the reading starts or goes on past the
end of the source.

The position is never less than before.  The text of the cursor is made up of the pieces that were
taken, and the next operation takes a piece as well.  One that fails, or has no answer, leaves the
cursor as it was.  A run stops at the end of the source or before the first character outside its
class.  Of a number the longest plain numeral that stands ahead is read, and where none does nothing
is, and the cursor stays. -/
theorem readings_keep (source : Array Char) (start : Nat) (front : List Action) :
    let cursor := (begin source start).behind front
    (∀ back, (begin source start).performAll (front ++ back) =
        (begin source start).performAll front ++ cursor.performAll back ∧
      cursor.position ≤ ((begin source start).behind (front ++ back)).position) ∧
    cursor.text = String.join ((begin source start).pieces front) ∧
    (∀ action, Takes cursor (action.piece (cursor.perform action).1) (cursor.perform action).2 ∧
      ((cursor.perform action).1.isSuccess = false ∨ (cursor.perform action).1 = .outOfRange →
        (cursor.perform action).2 = cursor)) ∧
    (∀ low high, RunsOver (fun c => low ≤ String.singleton c ∧ String.singleton c ≤ high)
      (cursor.readBetween low high).1 (cursor.readBetween low high).2) ∧
    (∀ characters, RunsOver (· ∈ characters.toList)
      (cursor.readWhile characters).1 (cursor.readWhile characters).2) ∧
    ReadsNumeral cursor cursor.readNumber.1 cursor.readNumber.2 := by
  intro cursor
  have taken := (begin source start).takes_behind front
  refine ⟨fun back => ⟨performAll_append _ front back, ?_⟩, ?_,
    fun action => ⟨cursor.takes_perform action, cursor.perform_of_failure⟩, fun low high => ?_,
    fun characters => ?_, cursor.readsNumeral_readNumber⟩
  · rw [behind_append]
    exact (cursor.takes_behind back).reaches.position
  · have text := taken.text (Nat.le_refl start)
    rwa [text_begin, String.empty_append] at text
  · exact cursor.runsOver_readRun fun c => by simp [isBetween]
  · exact cursor.runsOver_readRun fun c => List.contains_iff_mem

end Cursor

end Reckon
