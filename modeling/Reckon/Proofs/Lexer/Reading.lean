import Reckon.Lexicon

/-!
# What a reading leaves behind

The text of a cursor is computed from two positions and knows nothing of the operations that
moved it.  Each operation nevertheless appends to it exactly what it answers, as long as the
position is not before the start: `text_readChar`, `text_readRun` and `text_readNumber`.  Past
the end of the source this holds because both sides are cut off there.
-/

namespace Reckon

namespace Cursor

/-- Two stretches of a source that meet make up one. -/
theorem ofList_extract_append (source : Array Char) {start middle stop : Nat}
    (h : start ≤ middle) (h' : middle ≤ stop) :
    String.ofList (source.extract start middle).toList ++
        String.ofList (source.extract middle stop).toList =
      String.ofList (source.extract start stop).toList := by
  rw [← String.ofList_append, ← Array.toList_append, Array.extract_append_extract,
    Nat.min_eq_left h, Nat.max_eq_right h']

@[simp] theorem text_begin (source : Array Char) (start : Nat) : (begin source start).text = "" :=
  text_eq_empty (Nat.le_refl _)

/-- A run reads characters of its class only. -/
theorem inClass_of_mem_readRun {cursor : Cursor} {inClass : Char → Bool} {c : Char}
    (h : c ∈ (cursor.readRun inClass).1.toList) : inClass c = true := by
  rw [readRun_fst, String.toList_ofList] at h
  exact List.all_eq_true.1 List.all_takeWhile c h

theorem text_readRun {cursor : Cursor} (h : cursor.start ≤ cursor.position)
    (inClass : Char → Bool) :
    (cursor.readRun inClass).2.text = cursor.text ++ (cursor.readRun inClass).1 :=
  (ofList_extract_append cursor.source h (le_runEnd _ _ _)).symm

/-- A wanted text that is read is the character at the position, or nothing at the end. -/
theorem text_readChar {cursor : Cursor} {want : String} (h : cursor.start ≤ cursor.position)
    (found : (cursor.readChar want).1 = true) :
    (cursor.readChar want).2.text = cursor.text ++ want := by
  unfold readChar at found ⊢
  split at found
  · next ahead =>
    rw [if_pos ahead, ← ahead]
    have next_char : String.ofList (cursor.source.extract cursor.position
        (cursor.position + 1)).toList = cursor.ahead := by
      unfold Cursor.ahead
      split
      · next c here =>
        obtain ⟨inside, rfl⟩ := Array.getElem?_eq_some_iff.1 here
        rw [Array.extract_succ_right (Nat.lt_succ_self _) inside, Array.toList_push,
          Array.extract_eq_empty_of_le (Nat.min_le_left _ _), String.singleton_eq_ofList]
        rfl
      · next past =>
        rw [Array.extract_eq_empty_of_le (by
          have := Array.getElem?_eq_none_iff.1 past
          omega)]
    rw [← next_char]
    exact (ofList_extract_append cursor.source h (Nat.le_succ _)).symm
  · exact absurd found (by simp)

theorem Reaches.start_le {before after : Cursor} (h : before.Reaches after)
    (le : before.start ≤ before.position) : after.start ≤ after.position := by
  rw [h.start]
  exact Nat.le_trans le h.position

theorem text_readNumber {cursor : Cursor} (h : cursor.start ≤ cursor.position) :
    cursor.readNumber.2.text = cursor.text ++ cursor.readNumber.1 := by
  have whole := text_readRun h Char.isDigit
  have behindWhole := (reaches_readRun cursor Char.isDigit).start_le h
  have behindPoint := (reaches_readChar (cursor.readRun Char.isDigit).2 ".").start_le behindWhole
  unfold readNumber
  dsimp only
  split
  · rw [String.append_empty]
  · split
    · next point =>
      dsimp only
      rw [text_readRun behindPoint, text_readChar behindWhole point, whole, String.append_assoc,
        String.append_assoc, String.append_assoc]
    · exact whole

end Cursor

end Reckon
