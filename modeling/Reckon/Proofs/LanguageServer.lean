import Reckon.LanguageServer
import Reckon.Proofs.LineResults
import Reckon.Proofs.Rejection.Place

/-!
# What is published for a document

Every announcement publishes once, for the document that it is about, and what it publishes are the
diagnostics of the text that this document was given last: `run_published`.  Earlier texts of the
document and the texts of other documents have no part in it.

## The current text

What is assumed of the store of documents is `textOf_after`: the document of an event gets the last
of its texts, and every other keeps its own.  For the store at hand, a list with the latest document
in front, this is a lemma, and it is all that is used of it from there on.  So after any events the
text of a document is the last one that they gave to it (`textOf_foldl_after`).

## The diagnostics of a text

`Describes` says what they are line by line, with lines counted from zero: there is one for each
faulty line, and no other.  Since they stand in the order of their lines, no line has two.
-/

namespace Reckon

/-- Whether a line is one that a diagnostic is due for: it is not blank, it is no comment, and it
has no value. -/
structure Line.IsFaulty (line : Line) : Prop where
  notBlank : ¬line.IsBlank
  notComment : ¬line.IsComment
  noValue : ∀ value, evaluate line.text ≠ .ok value

namespace LanguageServer

/-! ## Specification -/

/-- The texts that an event gives to its document, one after the other. -/
def Event.texts : Event → List String
  | opened _ text => [text]
  | changed _ texts => texts

/-- The texts that events give to a document, one after the other. -/
def givenTo (uri : String) (events : List Event) : List String :=
  (events.filter fun event => event.uri = uri).flatMap Event.texts

/-- Whether documents are changed only after they were opened. -/
def OpenedFirst (events : List Event) : Prop :=
  ∀ before uri texts after, events = before ++ .changed uri texts :: after →
    ∃ text, .opened uri text ∈ before

/-- Whether a diagnostic tells the fault of a line.  It lies on the line and is not empty.  It
covers the fault where that has a place, and the whole line where it has none. -/
structure Diagnostic.Tells (diagnostic : Diagnostic) (number : Nat) (line : Line) : Prop where
  number : diagnostic.range.line = number
  nonneg : 0 ≤ diagnostic.range.start
  some_text : diagnostic.range.start < diagnostic.range.stop
  within : diagnostic.range.stop ≤ line.text.length
  fault : ∃ rejection cause, evaluate line.text = .error (.rejected rejection cause) ∧
    diagnostic.message = rejection.message ∧
    (diagnostic.range.start = rejection.start ∧ diagnostic.range.stop = rejection.stop ∨
      (rejection.start = -1 ∧ rejection.stop = -1) ∧
        diagnostic.range.start = 0 ∧ diagnostic.range.stop = line.text.length)

/-- Whether diagnostics are those of a text. -/
structure Describes (diagnostics : List Diagnostic) (text : String) : Prop where
  increasing : diagnostics.Pairwise fun a b => a.range.line < b.range.line
  sound : ∀ diagnostic ∈ diagnostics, ∃ number line,
    (Line.ofText text.toList)[number]? = some line ∧ line.IsFaulty ∧ diagnostic.Tells number line
  complete : ∀ number line, (Line.ofText text.toList)[number]? = some line → line.IsFaulty →
    ∃ diagnostic ∈ diagnostics, diagnostic.Tells number line

/-! ## The current texts of documents -/

namespace Documents

theorem textOf_put (documents : Documents) (uri other text : String) :
    (documents.put uri text).textOf other =
      if uri = other then text else documents.textOf other := by
  rw [textOf, put, List.find?_cons]
  split
  · next same => rw [if_pos (eq_of_beq same)]; rfl
  · next apart =>
    have apart' : uri ≠ other := fun same => absurd (beq_iff_eq.2 same) (by simp [apart])
    -- an entry of the other document is not among those that are dropped
    have kept : (fun entry : String × String => decide ((entry.1 != uri) = true ∧
        (entry.1 == other) = true)) = fun entry => entry.1 == other := by
      funext entry
      by_cases here : entry.1 = other
      · simp [here, apart'.symm]
      · simp [here]
    rw [List.find?_filter, kept, if_neg apart', textOf]

/-- Texts given in turn leave the last. -/
theorem textOf_foldl_put (documents : Documents) (uri other : String) (texts : List String) :
    (texts.foldl (fun documents text => documents.put uri text) documents).textOf other =
      if uri = other then texts.getLast?.getD (documents.textOf other)
      else documents.textOf other := by
  induction texts generalizing documents with
  | nil => simp
  | cons text rest ih =>
    rw [List.foldl_cons, ih, textOf_put]
    split
    · rw [List.getLast?_cons, Option.getD_some]
    · rfl

/-- What an event does to the text of a document. -/
theorem textOf_after (documents : Documents) (event : Event) (uri : String) :
    (documents.after event).textOf uri =
      if event.uri = uri then event.texts.getLast?.getD (documents.textOf uri)
      else documents.textOf uri := by
  cases event with
  | opened other text => exact textOf_put documents other uri text
  | changed other texts => exact textOf_foldl_put documents other uri texts

end Documents

theorem givenTo_cons (uri : String) (event : Event) (events : List Event) :
    givenTo uri (event :: events) =
      (if event.uri = uri then event.texts else []) ++ givenTo uri events := by
  unfold givenTo
  split
  · next same => rw [List.filter_cons_of_pos (by simp [same]), List.flatMap_cons]
  · next apart => rw [List.filter_cons_of_neg (by simp [apart]), List.nil_append]

/-- **The current text.**  After events a document has the last text that they gave to it, or the
one it had before them. -/
theorem textOf_foldl_after (documents : Documents) (events : List Event) (uri : String) :
    (events.foldl Documents.after documents).textOf uri =
      (givenTo uri events).getLast?.getD (documents.textOf uri) := by
  induction events generalizing documents with
  | nil => rfl
  | cons event rest ih =>
    rw [List.foldl_cons, ih, Documents.textOf_after, givenTo_cons, List.getLast?_append]
    split
    · cases (givenTo uri rest).getLast? <;> rfl
    · cases (givenTo uri rest).getLast? <;> rfl

/-- The document of an event has been given a text, where changes come after openings. -/
theorem exists_getLast?_givenTo {events before after : List Event} {event : Event}
    (opened : OpenedFirst events) (split : events = before ++ event :: after) :
    ∃ text, (givenTo event.uri (before ++ [event])).getLast? = some text := by
  have given : givenTo event.uri (before ++ [event]) ≠ [] := by
    intro none
    have nothing : ∀ other ∈ before ++ [event], other.uri = event.uri → other.texts = [] := by
      intro other mem same
      exact List.flatMap_eq_nil_iff.1 none other (List.mem_filter.2 ⟨mem, decide_eq_true same⟩)
    have own := nothing event (List.mem_append_right _ (List.mem_singleton_self event)) rfl
    cases event with
    | opened uri text => exact absurd own (List.cons_ne_nil text [])
    | changed uri texts =>
      obtain ⟨text, mem⟩ := opened before uri texts after split
      have first := nothing _ (List.mem_append_left _ mem) rfl
      exact absurd first (List.cons_ne_nil text [])
  exact ⟨_, List.getLast?_eq_some_getLast given⟩

/-! ## The diagnostics of a text -/

/-- The diagnostic of a rejected line tells its fault. -/
theorem Diagnostic.tells_ofRejection {result : LineResult} {line : Line} {number : Nat}
    {rejection : Rejection} {cause : Cause} (solid : ¬line.IsBlank)
    (place : result.line = (number : Int) + 1) (source : result.text = line.text)
    (rejected : evaluate line.text = .error (.rejected rejection cause)) :
    (Diagnostic.ofRejection result rejection).Tells number line := by
  have row : result.line - 1 = number := by omega
  have positive : 0 < line.text.length := by
    rw [← String.length_toList, Line.text, String.toList_ofList, List.length_pos_iff]
    intro empty
    exact solid fun c mem => absurd (empty ▸ mem) List.not_mem_nil
  rcases (evaluate_eq_rejected_iff.1 rejected).start_stop with
    ⟨start, stop⟩ | ⟨nonneg, some_text, within⟩
  · have unplaced : rejection.hasPosition = false := by
      rw [Rejection.hasPosition, start]
      rfl
    have range : (Diagnostic.ofRejection result rejection).range =
        ⟨number, 0, line.text.length⟩ := by
      rw [ofRejection, unplaced, row, source]
      rfl
    refine ⟨by rw [range], by rw [range], ?_, by rw [range], rejection, cause, rejected, rfl,
      .inr ⟨⟨start, stop⟩, by rw [range], by rw [range]⟩⟩
    rw [range]
    exact Int.ofNat_lt.2 positive
  · have placed : rejection.hasPosition = true := decide_eq_true nonneg
    have range : (Diagnostic.ofRejection result rejection).range =
        ⟨number, rejection.start, rejection.stop⟩ := by
      rw [ofRejection, placed, row]
      rfl
    exact ⟨by rw [range], by rw [range]; exact nonneg, by rw [range]; exact some_text,
      by rw [range]; exact within, rejection, cause, rejected, rfl,
      .inl ⟨by rw [range], by rw [range]⟩⟩

theorem Diagnostic.ofResult?_eq_some_iff {result : LineResult} {diagnostic : Diagnostic} :
    ofResult? result = some diagnostic ↔
      ∃ rejection, result.outcome = .error rejection ∧
        ofRejection result rejection = diagnostic := by
  unfold ofResult?
  cases result.outcome with
  | ok value => simp
  | error rejection => simp

theorem Diagnostic.line_ofRejection (result : LineResult) (rejection : Rejection) :
    (ofRejection result rejection).range.line = result.line - 1 := by
  unfold ofRejection
  split <;> rfl

/-- The result of a line gives a diagnostic exactly where the line has no value, and the diagnostic
tells its fault. -/
theorem Diagnostic.ofResult?_cases {result : LineResult} {line : Line} {number : Nat}
    (solid : ¬line.IsBlank) (isOf : result.IsOf (line.text, (number : Int) + 1)) :
    (∃ value, ofResult? result = none ∧ evaluate line.text = .ok value) ∨
      ∃ diagnostic, ofResult? result = some diagnostic ∧ diagnostic.Tells number line ∧
        ∀ value, evaluate line.text ≠ .ok value := by
  obtain ⟨place, source, outcome⟩ := isOf
  generalize outcome_eq : result.outcome = reached at outcome
  cases outcome with
  | @value value evaluated => exact .inl ⟨value, by rw [ofResult?, outcome_eq], evaluated⟩
  | @rejection rejection cause rejected =>
    refine .inr ⟨ofRejection result rejection, by rw [ofResult?, outcome_eq],
      tells_ofRejection solid place source rejected, fun value evaluated => ?_⟩
    exact absurd (evaluated.symm.trans rejected) (by simp)

/-- **The diagnostics of a text** are there, and tell its faulty lines. -/
theorem exists_diagnose (text : String) :
    ∃ diagnostics, diagnose text = .ok diagnostics ∧ Describes diagnostics text := by
  obtain ⟨results, evaluated, related⟩ := exists_evaluateLines text true
  refine ⟨results.filterMap Diagnostic.ofResult?, by rw [diagnose, evaluated]; rfl, ?_, ?_, ?_⟩
  · refine List.pairwise_filterMap.2 ((pairwise_of_areResultsOf related).imp ?_)
    intro a b increasing first hfirst second hsecond
    obtain ⟨_, _, rfl⟩ := Diagnostic.ofResult?_eq_some_iff.1 hfirst
    obtain ⟨_, _, rfl⟩ := Diagnostic.ofResult?_eq_some_iff.1 hsecond
    rw [Diagnostic.line_ofRejection, Diagnostic.line_ofRejection]
    omega
  · intro diagnostic mem
    obtain ⟨result, here, told⟩ := List.mem_filterMap.1 mem
    obtain ⟨index, line, found, notBlank, notComment, isOf⟩ := exists_line_of_mem related here
    rcases Diagnostic.ofResult?_cases notBlank isOf with
      ⟨_, untold, _⟩ | ⟨_, told', tells, noValue⟩
    · exact absurd (told.symm.trans untold) (by simp)
    · cases told.symm.trans told'
      exact ⟨index, line, found, ⟨notBlank, fun comment => notComment ⟨rfl, comment⟩, noValue⟩,
        tells⟩
  · intro index line found ⟨notBlank, notComment, noValue⟩
    obtain ⟨result, here, isOf⟩ := exists_mem_of_line related found notBlank
      fun comment => notComment comment.2
    rcases Diagnostic.ofResult?_cases notBlank isOf with
      ⟨value, _, evaluated⟩ | ⟨diagnostic, told, tells, _⟩
    · exact absurd evaluated (noValue value)
    · exact ⟨diagnostic, List.mem_filterMap.2 ⟨result, here, told⟩, tells⟩

/-! ## The main statement -/

/-- What a run publishes for each of its events. -/
theorem exists_run (documents : Documents) (events : List Event) :
    ∃ published, run documents events = .ok published ∧ published.length = events.length ∧
      ∀ before event after, events = before ++ event :: after →
        ∃ diagnostics,
          diagnose (((before ++ [event]).foldl Documents.after documents).textOf event.uri) =
            .ok diagnostics ∧
          published[before.length]? = some [⟨event.uri, diagnostics⟩] := by
  induction events generalizing documents with
  | nil =>
    refine ⟨[], rfl, rfl, fun before event after split => ?_⟩
    exact absurd split.symm (by simp)
  | cons first rest ih =>
    obtain ⟨diagnostics, diagnosed, -⟩ :=
      exists_diagnose ((documents.after first).textOf first.uri)
    obtain ⟨later, ran, length, others⟩ := ih (documents.after first)
    refine ⟨[⟨first.uri, diagnostics⟩] :: later, ?_, by rw [List.length_cons, length]; rfl, ?_⟩
    · rw [run, handle, diagnosed]
      simp only [bind, Except.bind, ran]
    · intro before event after split
      cases before with
      | nil =>
        cases split
        exact ⟨diagnostics, diagnosed, rfl⟩
      | cons other before =>
        obtain ⟨rfl, later⟩ := List.cons.inj split
        exact others before event after later

/-- **Every event publishes the diagnostics of the current text of its document**, once and for no
other document. -/
theorem run_published {events : List Event} (opened : OpenedFirst events) :
    ∃ published, run [] events = .ok published ∧ published.length = events.length ∧
      ∀ before event after, events = before ++ event :: after →
        ∃ text diagnostics, (givenTo event.uri (before ++ [event])).getLast? = some text ∧
          published[before.length]? = some [⟨event.uri, diagnostics⟩] ∧
          diagnose text = .ok diagnostics ∧ Describes diagnostics text := by
  obtain ⟨published, ran, length, each⟩ := exists_run [] events
  refine ⟨published, ran, length, fun before event after split => ?_⟩
  obtain ⟨text, current⟩ := exists_getLast?_givenTo opened split
  obtain ⟨diagnostics, diagnosed, here⟩ := each before event after split
  rw [textOf_foldl_after, current] at diagnosed
  obtain ⟨same, diagnosed', describes⟩ := exists_diagnose text
  cases Except.ok.inj (diagnosed.symm.trans diagnosed')
  exact ⟨text, diagnostics, current, here, diagnosed, describes⟩

/-- A document that is opened, left for another one and then changed twice at once is diagnosed by
the last of its texts, which is a comment. -/
theorem run_published_changedTwice :
    OpenedFirst [.opened "a" "(", .opened "b" ")", .changed "a" ["1 2", "# 1"]] ∧
    ∃ published,
      run [] [.opened "a" "(", .opened "b" ")", .changed "a" ["1 2", "# 1"]] = .ok published ∧
      published.length = 3 ∧ published[2]? = some [⟨"a", []⟩] ∧ Describes [] "# 1" := by
  have opened : OpenedFirst [.opened "a" "(", .opened "b" ")", .changed "a" ["1 2", "# 1"]] := by
    intro before uri texts after split
    rcases before with _ | ⟨first, _ | ⟨second, _ | ⟨third, rest⟩⟩⟩
    · cases split
    · cases split
    · cases split
      exact ⟨"(", List.mem_cons_self ..⟩
    · simp at split
  obtain ⟨published, ran, length, each⟩ := run_published opened
  obtain ⟨text, diagnostics, current, here, diagnosed, describes⟩ :=
    each [.opened "a" "(", .opened "b" ")"] (.changed "a" ["1 2", "# 1"]) [] rfl
  cases Option.some.inj current
  have none : diagnose "# 1" = .ok [] := rfl
  cases Except.ok.inj (none.symm.trans diagnosed)
  exact ⟨opened, published, ran, length, here, describes⟩

end LanguageServer

end Reckon
