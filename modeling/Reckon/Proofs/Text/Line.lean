import Mathlib.Data.List.DropRight
import Reckon.Text.Line

/-!
# Counting lines by their line feeds

A text that a break ends and the text behind it fall into lines on their own, unless the break is a
carriage return that a line feed follows (`ofText_append`).  After a line feed they always do
(`ofText_append_feed`), so the line feeds of a text count its lines exactly where nothing else ends
one.  A carriage return does not where a line feed stands directly behind it:
`ReturnsPaired` asks this of every carriage return.

`exists_line_behind` is what a place in a text needs: if the text before it is broken by line feeds
and paired carriage returns only, then as many lines stand above the place as there are line feeds
before it, and its own line begins behind the last of them.

Otherwise the line feeds are fewer than the lines, because no line has more than one of them
(`count_feed_le`).  So a place that as many lines stand above as there are line feeds before it has
its carriage returns paired (`LiesOn.returnsPaired`).
-/

namespace Reckon

namespace Line

variable {text before following piece : List Char} {line : Line} {below : List Line} {c : Char}

/-- What is seen of a line: all of it but a line feed and a carriage return that end it. -/
def visible (line : Line) : List Char :=
  line.content ++ line.ending.filter fun c => c != '\n' && c != '\r'

/-- Whether every carriage return of a text has a line feed directly behind it. -/
def ReturnsPaired (text : List Char) : Prop :=
  ∀ front back, text = front ++ '\r' :: back → back.head? = some '\n'

/-- Whether a text is complete: it is empty, or a break ends it. -/
def IsComplete (text : List Char) : Prop := ∀ c ∈ text.getLast?, isLineBreak c = true

/-- Whether the break of two characters begins at the end of a text and ends with the next one. -/
def PartsBreak (front back : List Char) : Prop :=
  front.getLast? = some '\r' ∧ back.head? = some '\n'

/-- Whether a line, below some others, is the line of a text in which an offset lies. -/
structure LiesOn (text : List Char) (above : List Line) (line : Line) (offset : Nat) : Prop where
  lines : ∃ below, ofText text = above ++ line :: below
  start : (above.flatMap full).length ≤ offset
  stop : offset < (above.flatMap full).length + line.full.length

theorem visible_sublist (line : Line) : line.visible.Sublist line.full :=
  List.Sublist.append_left List.filter_sublist _

/-! ## One more character in front -/

theorem push_of_not_break (h : isLineBreak c = false) (lines : List Line) :
    push c lines = consTo c lines := by
  rw [push, h]
  rfl

theorem push_of_break (h : isLineBreak c = true) (other : c ≠ '\r') (lines : List Line) :
    push c lines = ⟨[], [c]⟩ :: lines := by
  rw [push, if_pos h, if_neg (fun joined => other joined.1)]

@[simp] theorem push_feed (lines : List Line) : push '\n' lines = loneFeed :: lines := rfl

@[simp] theorem push_return_loneFeed (lines : List Line) :
    push '\r' (loneFeed :: lines) = ⟨[], ['\r', '\n']⟩ :: lines := rfl

theorem push_ne_nil (c : Char) (lines : List Line) : push c lines ≠ [] := by
  unfold push
  split
  · split
    · exact List.cons_ne_nil _ _
    · exact List.cons_ne_nil _ _
  · cases lines with
    | nil => exact List.cons_ne_nil _ _
    | cons line rest => exact List.cons_ne_nil _ _

theorem ofText_ne_nil (h : text ≠ []) : ofText text ≠ [] := by
  cases text with
  | nil => exact absurd rfl h
  | cons c text =>
    rw [ofText_cons]
    exact push_ne_nil c _

theorem length_push_le (c : Char) (lines : List Line) : (push c lines).length ≤ lines.length + 1 := by
  unfold push
  split
  · split
    · rw [List.length_cons, List.length_tail]
      omega
    · exact le_rfl
  · cases lines with
    | nil => exact le_rfl
    | cons line rest => exact Nat.le_succ _

/-- A text has no more lines than characters. -/
theorem length_ofText_le (text : List Char) : (ofText text).length ≤ text.length := by
  induction text with
  | nil => exact le_rfl
  | cons c text ih =>
    rw [ofText_cons]
    exact (length_push_le c _).trans (Nat.succ_le_succ ih)

/-- A character in front changes the first line only. -/
theorem push_append {lines : List Line} (some_line : lines ≠ []) (c : Char) (others : List Line) :
    push c (lines ++ others) = push c lines ++ others := by
  obtain ⟨line, rest, rfl⟩ := List.exists_cons_of_ne_nil some_line
  unfold push
  split
  · rw [List.cons_append, List.head?_cons, List.head?_cons, List.tail_cons, List.tail_cons]
    split
    · rfl
    · rfl
  · rfl

/-- A text begins with a line that is nothing but a line feed if it begins with a line feed. -/
theorem head?_ofText (h : text.head? = some '\n') : (ofText text).head? = some loneFeed := by
  obtain ⟨rest, rfl⟩ := List.head?_eq_some_iff.1 h
  rw [ofText_cons, push_feed, List.head?_cons]

/-! ## Lines one by one -/

/-- What a line is made of. -/
structure IsLine (line : Line) : Prop where
  unbroken : ∀ c ∈ line.content, isLineBreak c = false
  ending : line.ending = [] ∨ (∃ c, isLineBreak c = true ∧ line.ending = [c]) ∨
    line.ending = ['\r', '\n']

theorem IsLine.not_mem_content (h : line.IsLine) (breaks : isLineBreak c = true) :
    c ∉ line.content := by
  intro mem
  rw [h.unbroken c mem] at breaks
  exact Bool.false_ne_true breaks

theorem isLine_of_mem_push {lines : List Line} (h : ∀ line ∈ lines, line.IsLine) :
    ∀ line ∈ push c lines, line.IsLine := by
  have empty : ∀ c ∈ ([] : List Char), isLineBreak c = false := by simp
  intro line mem
  unfold push at mem
  split at mem
  · next breaks =>
    split at mem
    · rcases List.mem_cons.1 mem with rfl | mem
      · exact ⟨empty, .inr (.inr rfl)⟩
      · exact h line (List.mem_of_mem_tail mem)
    · rcases List.mem_cons.1 mem with rfl | mem
      · exact ⟨empty, .inr (.inl ⟨c, breaks, rfl⟩)⟩
      · exact h line mem
  · next stays =>
    rw [Bool.not_eq_true] at stays
    cases lines with
    | nil =>
      cases List.mem_singleton.1 mem
      exact ⟨by simpa using stays, .inl rfl⟩
    | cons first rest =>
      obtain ⟨first_line, others⟩ := List.forall_mem_cons.1 h
      rcases List.mem_cons.1 mem with rfl | mem
      · exact ⟨List.forall_mem_cons.2 ⟨stays, first_line.unbroken⟩, first_line.ending⟩
      · exact others line mem

/-- Breaks stand only at the ends of lines. -/
theorem isLine_of_mem_ofText (mem : line ∈ ofText text) : line.IsLine := by
  induction text generalizing line with
  | nil => exact absurd mem (by simp)
  | cons c text ih =>
    rw [ofText_cons] at mem
    exact isLine_of_mem_push (fun _ => ih) line mem

/-- A line feed is never seen. -/
theorem IsLine.feed_not_mem_visible (h : line.IsLine) : '\n' ∉ line.visible := by
  intro mem
  rcases List.mem_append.1 mem with inside | ending
  · exact h.not_mem_content rfl inside
  · exact absurd (List.of_mem_filter ending) (by decide)

/-! ## Texts in two parts -/

/-- Only a text that begins with a line feed has a first line that is nothing else. -/
theorem head?_of_head?_ofText (h : (ofText text).head? = some loneFeed) :
    text.head? = some '\n' := by
  obtain ⟨rest, lines⟩ := List.head?_eq_some_iff.1 h
  rw [← flatMap_full_ofText text, lines, List.flatMap_cons]
  rfl

/-- **A complete text and the text behind it fall into lines on their own**, unless a break would be
parted. -/
theorem ofText_append {front back : List Char} (complete : IsComplete front)
    (whole : ¬PartsBreak front back) : ofText (front ++ back) = ofText front ++ ofText back := by
  induction front with
  | nil => rfl
  | cons c front ih =>
    rw [List.cons_append, ofText_cons, ofText_cons]
    by_cases single : front = []
    · subst single
      have breaks : isLineBreak c = true := complete c rfl
      by_cases carriage : c = '\r'
      · subst carriage
        have other : ¬('\r' = '\r' ∧ (ofText back).head? = some loneFeed) := fun joined =>
          whole ⟨rfl, head?_of_head?_ofText joined.2⟩
        rw [List.nil_append, push, if_pos breaks, if_neg other]
        rfl
      · rw [List.nil_append, push_of_break breaks carriage, push_of_break breaks carriage]
        rfl
    · have last : (c :: front).getLast? = front.getLast? := by
        obtain ⟨d, rest, rfl⟩ := List.exists_cons_of_ne_nil single
        exact List.getLast?_cons_cons
      rw [IsComplete, last] at complete
      rw [PartsBreak, last] at whole
      rw [ih complete whole, push_append (ofText_ne_nil single)]

/-- A line feed separates the lines before it from those behind it. -/
theorem ofText_append_feed (front back : List Char) :
    ofText (front ++ ['\n'] ++ back) = ofText (front ++ ['\n']) ++ ofText back := by
  have last : (front ++ ['\n']).getLast? = some '\n' := by simp
  refine ofText_append ?_ ?_
  · intro c mem
    cases last.symm.trans mem
    rfl
  · intro parted
    exact absurd (last.symm.trans parted.1) (by decide)

/-- A text without breaks is put in front of the first line. -/
theorem ofText_append_of_unbroken (unbroken : ∀ c ∈ piece, isLineBreak c = false)
    (behind : ofText following = line :: below) :
    ofText (piece ++ following) = ⟨piece ++ line.content, line.ending⟩ :: below := by
  induction piece with
  | nil => exact behind
  | cons c piece ih =>
    obtain ⟨stays, others⟩ := List.forall_mem_cons.1 unbroken
    rw [List.cons_append, ofText_cons, ih others, push_of_not_break stays]
    rfl

/-- A text without breaks and a line feed behind it are a line. -/
theorem ofText_append_feed_of_unbroken (unbroken : ∀ c ∈ piece, isLineBreak c = false)
    (following : List Char) :
    ofText (piece ++ '\n' :: following) = ⟨piece, ['\n']⟩ :: ofText following := by
  have behind : ofText ('\n' :: following) = loneFeed :: ofText following := by
    rw [ofText_cons, push_feed]
  rw [ofText_append_of_unbroken unbroken behind, loneFeed, List.append_nil]

/-- A text without breaks is a line. -/
theorem ofText_of_unbroken (some_text : piece ≠ [])
    (unbroken : ∀ c ∈ piece, isLineBreak c = false) : ofText piece = [⟨piece, []⟩] := by
  induction piece with
  | nil => exact absurd rfl some_text
  | cons c piece ih =>
    obtain ⟨stays, others⟩ := List.forall_mem_cons.1 unbroken
    rw [ofText_cons, push_of_not_break stays]
    by_cases single : piece = []
    · rw [single]
      rfl
    · rw [ih single others]
      rfl

/-- A text without breaks stands on the first line, whatever is behind it. -/
theorem exists_line_of_unbroken (some_text : piece ≠ [])
    (unbroken : ∀ c ∈ piece, isLineBreak c = false) (following : List Char) :
    ∃ line below, ofText (piece ++ following) = line :: below ∧ piece <+: line.content := by
  cases lines : ofText following with
  | cons line below =>
    exact ⟨_, below, ofText_append_of_unbroken unbroken lines, List.prefix_append _ _⟩
  | nil =>
    have nothing : following = [] := by
      by_contra some_following
      exact ofText_ne_nil some_following lines
    rw [nothing, List.append_nil]
    exact ⟨⟨piece, []⟩, [], ofText_of_unbroken some_text unbroken, List.prefix_refl _⟩

/-- A character that is not a line feed or a carriage return is seen, also where it breaks the
line. -/
theorem exists_line_of_char (feed : c ≠ '\n') (carriage : c ≠ '\r') (following : List Char) :
    ∃ line below, ofText ([c] ++ following) = line :: below ∧ [c] <+: line.visible := by
  cases stays : isLineBreak c with
  | false =>
    obtain ⟨line, below, lines, begins⟩ :=
      exists_line_of_unbroken (List.cons_ne_nil c []) (by simpa using stays) following
    exact ⟨line, below, lines, begins.trans (List.prefix_append _ _)⟩
  | true =>
    refine ⟨⟨[], [c]⟩, ofText following, ?_, ?_⟩
    · rw [List.singleton_append, ofText_cons, push_of_break stays carriage]
    · simp [visible, feed, carriage]

/-! ## Counting -/

theorem returnsPaired_nil : ReturnsPaired [] := by
  intro front back split
  exact absurd split (by simp)

theorem returnsPaired_cons :
    ReturnsPaired (c :: text) ↔ (c = '\r' → text.head? = some '\n') ∧ ReturnsPaired text := by
  constructor
  · intro h
    constructor
    · rintro rfl
      exact h [] text rfl
    · rintro front back rfl
      exact h (c :: front) back rfl
  · rintro ⟨here, others⟩ front back split
    cases front with
    | nil =>
      obtain ⟨carriage, rfl⟩ := List.cons.inj split
      exact here carriage
    | cons d front =>
      obtain ⟨-, rest⟩ := List.cons.inj split
      exact others front back rest

instance decidableReturnsPaired : (text : List Char) → Decidable (ReturnsPaired text)
  | [] => .isTrue returnsPaired_nil
  | _ :: text =>
    have := decidableReturnsPaired text
    decidable_of_iff _ returnsPaired_cons.symm

theorem ReturnsPaired.of_append_right {front back : List Char} (h : ReturnsPaired (front ++ back)) :
    ReturnsPaired back := by
  intro init rest split
  refine h (front ++ init) rest ?_
  rw [split, List.append_assoc]

/-- A line feed also separates what is paired before it from what is paired behind it. -/
theorem returnsPaired_append_feed {front back : List Char} :
    ReturnsPaired (front ++ ['\n'] ++ back) ↔
      ReturnsPaired (front ++ ['\n']) ∧ ReturnsPaired back := by
  induction front with
  | nil =>
    have feed : ReturnsPaired ['\n'] := by decide
    rw [List.nil_append, List.singleton_append, returnsPaired_cons]
    exact ⟨fun h => ⟨feed, h.2⟩, fun h => ⟨fun carriage => absurd carriage (by decide), h.2⟩⟩
  | cons c front ih =>
    have head : (front ++ ['\n'] ++ back).head? = (front ++ ['\n']).head? :=
      List.head?_append_of_ne_nil _ (by simp)
    rw [List.cons_append, List.cons_append, returnsPaired_cons, returnsPaired_cons, ih, head,
      and_assoc]

/-- A text in front without carriage returns has nothing to pair. -/
theorem returnsPaired_append_of_not_mem {front : List Char} (h : '\r' ∉ front) (back : List Char) :
    ReturnsPaired (front ++ back) ↔ ReturnsPaired back := by
  induction front with
  | nil => rfl
  | cons c front ih =>
    rw [List.mem_cons, not_or] at h
    rw [List.cons_append, returnsPaired_cons, ih h.2]
    exact and_iff_right fun carriage => absurd carriage.symm h.1

theorem returnsPaired_of_not_mem (h : '\r' ∉ text) : ReturnsPaired text := by
  rw [← List.append_nil text]
  exact (returnsPaired_append_of_not_mem h []).2 returnsPaired_nil

/-- Behind the last line feed there is no carriage return to pair. -/
theorem ReturnsPaired.not_mem (h : ReturnsPaired text) (no_feed : '\n' ∉ text) : '\r' ∉ text := by
  intro mem
  obtain ⟨front, back, rfl⟩ := List.append_of_mem mem
  have feed : '\n' ∈ back := List.mem_of_mem_head? (h front back rfl)
  exact no_feed (List.mem_append_right _ (List.mem_cons_of_mem _ feed))

/-- **Line feeds count lines**, where nothing else ends one. -/
theorem length_ofText_feed
    (breaks : ∀ c ∈ text, isLineBreak c = true → c = '\n' ∨ c = '\r')
    (paired : ReturnsPaired (text ++ ['\n'])) :
    (ofText (text ++ ['\n'])).length = (text ++ ['\n']).count '\n' := by
  induction text with
  | nil => rfl
  | cons c text ih =>
    obtain ⟨breaks_here, others⟩ := List.forall_mem_cons.1 breaks
    obtain ⟨paired_here, paired_behind⟩ := returnsPaired_cons.1 paired
    have length := ih others paired_behind
    have some_line : ofText (text ++ ['\n']) ≠ [] := ofText_ne_nil (by simp)
    rw [List.cons_append, ofText_cons]
    cases stays : isLineBreak c with
    | false =>
      obtain ⟨line, rest, lines⟩ := List.exists_cons_of_ne_nil some_line
      have other : c ≠ '\n' := by
        rintro rfl
        exact absurd stays (by decide)
      rw [List.count_cons_of_ne other, ← length, push_of_not_break stays, lines]
      rfl
    | true =>
      rcases breaks_here stays with rfl | rfl
      · rw [push_feed, List.length_cons, length, List.count_cons_self]
      · have feed : (text ++ ['\n']).head? = some '\n' := paired_here rfl
        obtain ⟨rest, lines⟩ := List.head?_eq_some_iff.1 (head?_ofText feed)
        rw [List.count_cons_of_ne (by decide), ← length, lines, push_return_loneFeed]
        rfl

/-- What stands behind the last line feed is not broken. -/
theorem ReturnsPaired.unbroken_rtakeWhile (h : ReturnsPaired before)
    (breaks : ∀ c ∈ before, isLineBreak c = true → c = '\n' ∨ c = '\r') :
    ∀ c ∈ before.rtakeWhile (· != '\n'), isLineBreak c = false := by
  have no_feed : '\n' ∉ before.rtakeWhile (· != '\n') := fun mem =>
    absurd (List.mem_rtakeWhile_imp mem) (by simp)
  have no_return : '\r' ∉ before.rtakeWhile (· != '\n') := by
    rw [← List.rdropWhile_append_rtakeWhile (p := (· != '\n')) (l := before)] at h
    exact h.of_append_right.not_mem no_feed
  intro c mem
  rw [Bool.eq_false_iff]
  intro breaks_here
  have inside : c ∈ before := (List.rtakeWhile_suffix _ _).mem mem
  rcases breaks c inside breaks_here with rfl | rfl
  · exact no_feed mem
  · exact no_return mem

/-- **The line of a place.**  Where only line feeds and paired carriage returns break the text
before a place, the lines above it are as many as the line feeds before it, and its line begins
behind the last of them. -/
theorem exists_line_behind (breaks : ∀ c ∈ before, isLineBreak c = true → c = '\n' ∨ c = '\r')
    (paired : ReturnsPaired before) (behind : ofText following = line :: below) :
    ∃ above, ofText (before ++ following) =
        above ++ ⟨before.rtakeWhile (· != '\n') ++ line.content, line.ending⟩ :: below ∧
      above.length = before.count '\n' ∧
      above.flatMap full ++ before.rtakeWhile (· != '\n') = before := by
  have unbroken := paired.unbroken_rtakeWhile breaks
  have none_begun : (before.rtakeWhile (· != '\n')).count '\n' = 0 :=
    List.count_eq_zero.2 fun mem => absurd (unbroken _ mem) (by decide)
  have begins := ofText_append_of_unbroken unbroken behind
  have split : before.rdropWhile (· != '\n') ++ before.rtakeWhile (· != '\n') = before :=
    List.rdropWhile_append_rtakeWhile
  have closed : ∀ ne : before.rdropWhile (· != '\n') ≠ [],
      (before.rdropWhile (· != '\n')).getLast ne = '\n' := fun ne => by
    simpa using List.rdropWhile_last_not (· != '\n') before ne
  generalize before.rtakeWhile (· != '\n') = begun at *
  generalize before.rdropWhile (· != '\n') = complete at split closed
  subst split
  rcases List.eq_nil_or_concat complete with rfl | ⟨init, last, rfl⟩
  · exact ⟨[], begins, none_begun.symm, rfl⟩
  · have feed : last = '\n' := by simpa using closed (by simp)
    subst feed
    rw [List.concat_eq_append] at paired breaks ⊢
    have before_feed : ∀ c ∈ init, isLineBreak c = true → c = '\n' ∨ c = '\r' :=
      fun c mem => breaks c (by simp [mem])
    refine ⟨ofText (init ++ ['\n']), ?_, ?_, ?_⟩
    · rw [List.append_assoc, ofText_append_feed, begins]
    · rw [List.count_append, none_begun, Nat.add_zero]
      exact length_ofText_feed before_feed (returnsPaired_append_feed.1 paired).1
    · rw [flatMap_full_ofText]

/-! ## Where line feeds count too few -/

/-- A line has at most one line feed, and a line with one has its carriage return paired. -/
theorem IsLine.count_feed (h : line.IsLine) :
    line.full.count '\n' = 0 ∨ line.full.count '\n' = 1 ∧
      ∃ front, line.full = front ++ ['\n'] ∧ ReturnsPaired (front ++ ['\n']) := by
  have no_feed : '\n' ∉ line.content := h.not_mem_content rfl
  have no_return : '\r' ∉ line.content := h.not_mem_content rfl
  obtain ⟨content, ending⟩ := line
  obtain ⟨-, ending_eq⟩ := h
  have none_inside : content.count '\n' = 0 := List.count_eq_zero.2 no_feed
  rw [full, List.count_append, none_inside, Nat.zero_add]
  rcases ending_eq with rfl | ⟨c, -, rfl⟩ | rfl
  · exact .inl rfl
  · by_cases feed : c = '\n'
    · subst feed
      refine .inr ⟨rfl, content, rfl, ?_⟩
      exact (returnsPaired_append_of_not_mem no_return _).2 (by decide)
    · exact .inl (List.count_eq_zero.2 (by simpa using Ne.symm feed))
  · refine .inr ⟨rfl, content ++ ['\r'], by simp, ?_⟩
    rw [List.append_assoc]
    exact (returnsPaired_append_of_not_mem no_return _).2 (by decide)

/-- Lines have at most one line feed each; if each has one, then carriage returns are paired. -/
theorem count_feed_le {above : List Line} (h : ∀ line ∈ above, line.IsLine)
    (paired : ReturnsPaired piece) :
    (above.flatMap full).count '\n' ≤ above.length ∧
      ((above.flatMap full).count '\n' = above.length →
        ReturnsPaired (above.flatMap full ++ piece)) := by
  induction above with
  | nil => exact ⟨Nat.le_refl _, fun _ => paired⟩
  | cons line above ih =>
    obtain ⟨isLine, others⟩ := List.forall_mem_cons.1 h
    obtain ⟨le, paired_below⟩ := ih others
    rw [List.flatMap_cons, List.count_append, List.length_cons]
    rcases isLine.count_feed with none | ⟨one, front, ends, paired_here⟩
    · rw [none]
      exact ⟨by omega, fun all => absurd all (by omega)⟩
    · rw [one]
      refine ⟨by omega, fun all => ?_⟩
      rw [ends, List.append_assoc]
      exact returnsPaired_append_feed.2 ⟨paired_here, paired_below (by omega)⟩

/-- What stands on a line before a place is content, unless the place is within the break. -/
theorem IsLine.le_length_content (h : line.IsLine) {column : Nat}
    (within : column < line.full.length)
    (stays : (line.full.drop column).head? ≠ some '\n') : column ≤ line.content.length := by
  obtain ⟨content, ending⟩ := line
  obtain ⟨-, ending_eq⟩ := h
  rw [full, List.length_append] at within
  rw [full, List.head?_drop] at stays
  show column ≤ content.length
  rcases ending_eq with rfl | ⟨c, -, rfl⟩ | rfl
  · exact Nat.le_of_lt within
  · exact Nat.le_of_lt_succ within
  · by_contra inside
    have last : column = content.length + 1 := by
      simp only [List.length_cons, List.length_nil] at within
      omega
    subst last
    exact stays (by simp)

/-- **Where line feeds count the lines above a place**, every carriage return before it is
paired. -/
theorem LiesOn.returnsPaired {above : List Line} {offset : Nat} (h : LiesOn text above line offset)
    (stays : (text.drop offset).head? ≠ some '\n')
    (count : above.length = (text.take offset).count '\n') :
    ReturnsPaired (text.take offset) := by
  obtain ⟨⟨below, lines⟩, start, stop⟩ := h
  have isLine : ∀ other ∈ above ++ line :: below, other.IsLine := by
    rw [← lines]
    exact fun _ => isLine_of_mem_ofText
  have here : line.IsLine := isLine line (List.mem_append_right _ (List.mem_cons_self ..))
  have others : ∀ other ∈ above, other.IsLine := fun other mem =>
    isLine other (List.mem_append_left _ mem)
  have split : text = above.flatMap full ++ (line.full ++ below.flatMap full) := by
    rw [← flatMap_full_ofText text, lines, List.flatMap_append, List.flatMap_cons]
  obtain ⟨column, rfl⟩ := Nat.exists_eq_add_of_le start
  have within : column < line.full.length := by omega
  have begun : column ≤ line.content.length := by
    refine here.le_length_content within ?_
    rw [split, List.drop_length_add_append, List.drop_append_of_le_length (Nat.le_of_lt within),
      List.head?_append_of_ne_nil _ (by simpa using within)] at stays
    exact stays
  have taken : text.take ((above.flatMap full).length + column) =
      above.flatMap full ++ line.content.take column := by
    rw [split, List.take_length_add_append, List.take_append_of_le_length (Nat.le_of_lt within),
      full, List.take_append_of_le_length begun]
  have no_feed : '\n' ∉ line.content.take column := fun mem =>
    here.not_mem_content rfl (List.mem_of_mem_take mem)
  have no_return : '\r' ∉ line.content.take column := fun mem =>
    here.not_mem_content rfl (List.mem_of_mem_take mem)
  rw [taken, List.count_append, List.count_eq_zero.2 no_feed, Nat.add_zero] at count
  rw [taken]
  exact (count_feed_le others (returnsPaired_of_not_mem no_return)).2 count.symm

end Line

end Reckon
