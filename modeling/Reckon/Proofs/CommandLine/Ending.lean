import Reckon.Proofs.CommandLine.Report

/-!
# How a run ends

A run that is asked for by arguments that are understood ends with an exit code or breaks off.  It
answers every request, and ends with zero or one; or it complains, and ends with two; or it breaks
off for one of the seven reasons that `BreaksOff` lists.  `runArguments_ending` says that these are
all the ends there are, and that a run breaks off only for these reasons and whenever there is one
of them.

## Faults of the configuration

A document that is read for its lines and is not UTF-8 is complained of, and a configuration
document that is not well formed is complained of too.  But a configuration document that is not
UTF-8 breaks the run off (`not_forall_runArguments_code`), and so does a number in it that has too
many digits.
-/

namespace Reckon

namespace CommandLine

variable {asked : Arguments} {read : Path → Except FileFault (List UInt8)}

/-! ## Specification -/

/-- What the configuration says: what its document says, or nothing if there is none. -/
inductive Configured (asked : Arguments) (read : Path → Except FileFault (List UInt8)) :
    Toml.Table → Prop where
  | absent {fault : FileFault} (unread : read (configurationPath asked) = .error fault)
      (other : fault ≠ .nameTooLong) : Configured asked read []
  | present {bytes : List UInt8} {text : List Char} {table : Toml.Table}
      (found : read (configurationPath asked) = .ok bytes) (decoded : Utf8.decode bytes = .ok text)
      (understood : Toml.Table.ofText text = .ok table) : Configured asked read table

/-- How a run breaks off before there are options.  The name of the configuration document is too
long, the document is not UTF-8, or a number in it has too many digits to be read.  Or what the
configuration says can be understood; but it has something else than an integer for the precision,
which cannot be shown, or the arguments ask for a precision without a number. -/
inductive BreaksOffEarly (asked : Arguments) (read : Path → Except FileFault (List UInt8)) :
    BreakOff → Prop where
  | nameTooLong (unread : read (configurationPath asked) = .error .nameTooLong) :
      BreaksOffEarly asked read (.file .nameTooLong (configurationPath asked))
  | undecodable {bytes : List UInt8} {fault : Utf8.Fault}
      (found : read (configurationPath asked) = .ok bytes)
      (undecodable : Utf8.decode bytes = .error fault) :
      BreaksOffEarly asked read (.undecodable fault)
  | tooManyDigits {bytes : List UInt8} {text : List Char} {count : Option Nat}
      (found : read (configurationPath asked) = .ok bytes) (decoded : Utf8.decode bytes = .ok text)
      (refused : Toml.Table.ofText text = .error (.tooManyDigits count)) :
      BreaksOffEarly asked read (.configuration (.tooManyDigits count))
  | unwritable {table : Toml.Table} {value : Toml.Value} (configured : Configured asked read table)
      (said : said? table "output" "precision" = some value)
      (other : ∀ precision, value ≠ .integer precision) (unwritable : value.isWritable = false) :
      BreaksOffEarly asked read (.configuration (.tooManyDigits none))
  | noPrecision {table : Toml.Table} {precision : Int} (configured : Configured asked read table)
      (said : configuredPrecision table = .ok precision)
      (unsaid : asked.precision = some none) : BreaksOffEarly asked read .noPrecision

/-- What options ask to be evaluated, and under which name: the expressions among the arguments, or
else the lines of the document that are not passed over. -/
inductive Requested (options : Options) (surroundings : Surroundings) :
    String → List Request → Prop where
  | arguments (some_expression : options.expressions ≠ []) :
      Requested options surroundings "<arg>" (options.expressions.map fun text => (text, 1))
  | document {name : String} {bytes : List UInt8} {document : String}
      (no_expression : options.expressions = [])
      (found : documentBytes options surroundings = .ok (name, bytes))
      (decoded : documentOf bytes = .ok document) :
      Requested options surroundings name (lineRequests document options.comments)

/-- How a run breaks off: before there are options, at a document with a null character in its name,
or at a value that is to be printed in a precision that is not accepted. -/
inductive BreaksOff (asked : Arguments) (surroundings : Surroundings) : BreakOff → Prop where
  | early {reason : BreakOff} (h : BreaksOffEarly asked surroundings.read reason) :
      BreaksOff asked surroundings reason
  | embeddedNull {options : Options} {path : Path}
      (found : Options.find asked surroundings.read = .ok options)
      (no_expression : options.expressions = [])
      (unread : documentBytes options surroundings = .error (.embeddedNull, path)) :
      BreaksOff asked surroundings (.file .embeddedNull path)
  | precision {options : Options} {name : String} {requests : List Request} {request : Request}
      {fault : PrecisionFault} (found : Options.find asked surroundings.read = .ok options)
      (requested : Requested options surroundings name requests) (mem : request ∈ requests)
      (hasValue : request.HasValue)
      (refused : significantDigits options.precision = .error fault) :
      BreaksOff asked surroundings (.precision fault)

/-- What a run complains of: the options, the configuration, or the document. -/
inductive Complains (asked : Arguments) (surroundings : Surroundings) : String → Prop where
  | option {fault : OptionFault}
      (found : Options.find asked surroundings.read = .error (.option fault)) :
      Complains asked surroundings fault.message
  | configuration {cause : Toml.Cause} {place : Toml.Place}
      (found : Options.find asked surroundings.read = .error (.configuration cause place)) :
      Complains asked surroundings (Toml.Fault.malformed cause place).message
  | unread {options : Options} {fault : FileFault} {path : Path}
      (found : Options.find asked surroundings.read = .ok options)
      (no_expression : options.expressions = [])
      (unread : documentBytes options surroundings = .error (fault, path))
      (other : fault ≠ .embeddedNull) : Complains asked surroundings (fault.message path)
  | undecodable {options : Options} {name : String} {bytes : List UInt8} {fault : Utf8.Fault}
      (found : Options.find asked surroundings.read = .ok options)
      (no_expression : options.expressions = [])
      (opened : documentBytes options surroundings = .ok (name, bytes))
      (undecodable : documentOf bytes = .error fault) : Complains asked surroundings fault.message

/-- How a run ends: it breaks off for a reason; or there is none, and it complains and ends with
two, or answers every request and ends with one if a request failed, with zero if none did. -/
inductive Ends (asked : Arguments) (surroundings : Surroundings) : Report → Prop where
  | brokenOff {report : Report} {reason : BreakOff} (ending : report.ending = .error reason)
      (reason : BreaksOff asked surroundings reason) : Ends asked surroundings report
  | complained {text : String} (whole : ∀ reason, ¬BreaksOff asked surroundings reason)
      (complains : Complains asked surroundings text) :
      Ends asked surroundings (.complain text)
  | answered {report : Report} {options : Options} {name : String} {requests : List Request}
      (whole : ∀ reason, ¬BreaksOff asked surroundings reason)
      (found : Options.find asked surroundings.read = .ok options)
      (requested : Requested options surroundings name requests)
      (answers : report.Answers options.precision name requests) :
      Ends asked surroundings report

/-! ## Options -/

/-- A configured precision breaks the run off where it is no integer and cannot be shown. -/
theorem configuredPrecision_eq_breakOff_iff {table : Toml.Table} {reason : BreakOff} :
    configuredPrecision table = .error (.breakOff reason) ↔
      reason = .configuration (.tooManyDigits none) ∧
        ∃ value, said? table "output" "precision" = some value ∧
          (∀ precision, value ≠ .integer precision) ∧ value.isWritable = false := by
  unfold configuredPrecision
  split
  · next unsaid => simp [unsaid]
  · next precision said => simp [said]
  · next value other said =>
    have other' : ∀ precision, value ≠ .integer precision := other
    by_cases writable : value.isWritable = true
    · simp [said, writable]
    · rw [if_neg writable]
      constructor
      · intro h
        cases h
        exact ⟨rfl, value, said, other', Bool.eq_false_iff.2 writable⟩
      · rintro ⟨rfl, -⟩
        rfl

/-- With a configuration that is understood, the run breaks off over the configured precision, or
because the arguments ask for one without a number. -/
theorem Options.resolve_eq_breakOff_iff {table : Toml.Table} {reason : BreakOff} :
    Options.resolve asked table = .error (.breakOff reason) ↔
      configuredPrecision table = .error (.breakOff reason) ∨
        reason = .noPrecision ∧ asked.precision = some none ∧
          ∃ precision, configuredPrecision table = .ok precision := by
  unfold Options.resolve
  cases configuredPrecision table with
  | error fault => simp [bind, Except.bind]
  | ok configured =>
    cases asked.precision with
    | none =>
      simp only [bind, Except.bind]
      split <;> simp
    | some said =>
      cases said with
      | none => simp [bind, Except.bind, eq_comm]
      | some precision =>
        simp only [bind, Except.bind]
        split <;> simp

/-- A configuration in order is what the options are made from. -/
theorem Options.find_of_configured {table : Toml.Table} (h : Configured asked read table) :
    Options.find asked read = Options.resolve asked table := by
  cases h with
  | @absent fault unread other =>
    have nothing : configurationBytes? read (configurationPath asked) = .ok none := by
      rw [configurationBytes?, unread]
      cases fault <;> first | rfl | exact absurd rfl other
    rw [Options.find, nothing]
    rfl
  | present found decoded understood =>
    rw [Options.find, configurationBytes?, found]
    simp only [Except.mapError, bind, Except.bind, configurationOf, decoded, understood]

theorem Options.find_of_breaksOffEarly {reason : BreakOff} (h : BreaksOffEarly asked read reason) :
    Options.find asked read = .error (.breakOff reason) := by
  cases h with
  | nameTooLong unread =>
    rw [Options.find, configurationBytes?, unread]
    rfl
  | undecodable found undecodable =>
    rw [Options.find, configurationBytes?, found]
    simp only [Except.mapError, bind, Except.bind, configurationOf, undecodable]
  | tooManyDigits found decoded refused =>
    rw [Options.find, configurationBytes?, found]
    simp only [Except.mapError, bind, Except.bind, configurationOf, decoded, refused]
  | unwritable configured said other unwritable =>
    have broken := configuredPrecision_eq_breakOff_iff.2 ⟨rfl, _, said, other, unwritable⟩
    rw [find_of_configured configured]
    exact resolve_eq_breakOff_iff.2 (.inl broken)
  | noPrecision configured said unsaid =>
    rw [find_of_configured configured]
    exact resolve_eq_breakOff_iff.2 (.inr ⟨rfl, unsaid, _, said⟩)

/-- A configuration is in order, breaks the run off, or is not well formed. -/
theorem Options.find_cases (asked : Arguments) (read : Path → Except FileFault (List UInt8)) :
    (∃ table, Configured asked read table) ∨ (∃ reason, BreaksOffEarly asked read reason) ∨
      ∃ cause place, Options.find asked read = .error (.configuration cause place) := by
  cases found : read (configurationPath asked) with
  | error fault =>
    by_cases long : fault = .nameTooLong
    · subst long
      exact .inr (.inl ⟨_, .nameTooLong found⟩)
    · exact .inl ⟨[], .absent found long⟩
  | ok bytes =>
    cases decoded : Utf8.decode bytes with
    | error fault => exact .inr (.inl ⟨_, .undecodable found decoded⟩)
    | ok text =>
      cases understood : Toml.Table.ofText text with
      | ok table => exact .inl ⟨table, .present found decoded understood⟩
      | error fault =>
        cases fault with
        | tooManyDigits count => exact .inr (.inl ⟨_, .tooManyDigits found decoded understood⟩)
        | malformed cause place =>
          refine .inr (.inr ⟨cause, place, ?_⟩)
          rw [Options.find, configurationBytes?, found]
          simp only [Except.mapError, bind, Except.bind, configurationOf, decoded, understood]

/-- **No options for a reason that is not complained of.** -/
theorem Options.find_eq_breakOff_iff {reason : BreakOff} :
    Options.find asked read = .error (.breakOff reason) ↔ BreaksOffEarly asked read reason := by
  refine ⟨fun h => ?_, find_of_breaksOffEarly⟩
  rcases find_cases asked read with ⟨table, configured⟩ | ⟨other, early⟩ | ⟨cause, place, malformed⟩
  · rw [find_of_configured configured] at h
    rcases resolve_eq_breakOff_iff.1 h with broken | ⟨rfl, unsaid, precision, said⟩
    · obtain ⟨rfl, value, said, other, unwritable⟩ := configuredPrecision_eq_breakOff_iff.1 broken
      exact .unwritable configured said other unwritable
    · exact .noPrecision configured said unsaid
  · cases h.symm.trans (find_of_breaksOffEarly early)
    exact early
  · cases h.symm.trans malformed

/-! ## Runs -/

section Run

variable {options : Options} {surroundings : Surroundings}

/-- Options ask for one thing only. -/
theorem Requested.unique {name other : String} {requests others : List Request}
    (h : Requested options surroundings name requests)
    (h' : Requested options surroundings other others) : name = other ∧ requests = others := by
  cases h with
  | arguments some_expression =>
    cases h' with
    | arguments => exact ⟨rfl, rfl⟩
    | document no_expression => exact absurd no_expression some_expression
  | document no_expression found decoded =>
    cases h' with
    | arguments some_expression => exact absurd no_expression some_expression
    | document _ found' decoded' =>
      cases found.symm.trans found'
      cases decoded.symm.trans decoded'
      exact ⟨rfl, rfl⟩

/-- Without an expression the lines of a document are requested. -/
theorem Requested.opened {name : String} {requests : List Request}
    (h : Requested options surroundings name requests) (no_expression : options.expressions = []) :
    ∃ bytes document, documentBytes options surroundings = .ok (name, bytes) ∧
      documentOf bytes = .ok document := by
  cases h with
  | arguments some_expression => exact absurd no_expression some_expression
  | document _ found decoded => exact ⟨_, _, found, decoded⟩

/-- What is requested is evaluated, and the results are reported. -/
theorem run_of_requested {name : String} {requests : List Request}
    (h : Requested options surroundings name requests) :
    ∃ results, AreResultsOf requests results ∧
      run options surroundings = reportOn options ⟨name, results⟩ := by
  cases h with
  | arguments some_expression =>
    obtain ⟨results, evaluated, related⟩ :=
      exists_mapM_of_forall (fun text => exists_evalLine text 1) options.expressions
    refine ⟨results, List.forall₂_map_left_iff.2 related, ?_⟩
    rw [run, if_pos some_expression, evaluated]
    rfl
  | @document _ bytes document no_expression found decoded =>
    obtain ⟨results, evaluated, related⟩ := exists_evaluateLines document options.comments
    refine ⟨results, related, ?_⟩
    rw [run, if_neg (not_not_intro no_expression), found]
    simp only [decoded, evaluated]
    rfl

/-- Something is requested, or the document cannot be read or is not UTF-8. -/
theorem requested_cases (options : Options) (surroundings : Surroundings) :
    (∃ name requests, Requested options surroundings name requests) ∨
      options.expressions = [] ∧
        ((∃ fault path, documentBytes options surroundings = .error (fault, path)) ∨
          ∃ name bytes fault, documentBytes options surroundings = .ok (name, bytes) ∧
            documentOf bytes = .error fault) := by
  by_cases none : options.expressions = []
  · cases found : documentBytes options surroundings with
    | error unread => exact .inr ⟨none, .inl ⟨unread.1, unread.2, rfl⟩⟩
    | ok opened =>
      cases decoded : documentOf opened.2 with
      | error fault => exact .inr ⟨none, .inr ⟨opened.1, opened.2, fault, rfl, decoded⟩⟩
      | ok document => exact .inl ⟨opened.1, _, .document none found decoded⟩
  · exact .inl ⟨_, _, .arguments none⟩

end Run

/-- A run that finds its options breaks off only at the document or at a value. -/
theorem BreaksOff.cases_of_find {surroundings : Surroundings} {options : Options}
    {reason : BreakOff} (h : BreaksOff asked surroundings reason)
    (found : Options.find asked surroundings.read = .ok options) :
    (options.expressions = [] ∧
      ∃ path, documentBytes options surroundings = .error (.embeddedNull, path)) ∨
    ∃ name requests request fault, Requested options surroundings name requests ∧
      request ∈ requests ∧ request.HasValue ∧
      significantDigits options.precision = .error fault := by
  cases h with
  | early early => cases found.symm.trans (Options.find_of_breaksOffEarly early)
  | embeddedNull found' no_expression unread =>
    cases found.symm.trans found'
    exact .inl ⟨no_expression, _, unread⟩
  | precision found' requested mem hasValue refused =>
    cases found.symm.trans found'
    exact .inr ⟨_, _, _, _, requested, mem, hasValue, refused⟩

section Ending

variable {surroundings : Surroundings} {options : Options}

theorem ends_of_requested (found : Options.find asked surroundings.read = .ok options)
    {name : String} {requests : List Request}
    (requested : Requested options surroundings name requests) :
    Ends asked surroundings (run options surroundings) := by
  obtain ⟨results, related, reported⟩ := run_of_requested requested
  rw [reported]
  rcases reportOn_cases options ⟨name, results⟩ related with
    answers | ⟨fault, ending, refused, request, mem, hasValue⟩
  · refine .answered (fun reason breaks => ?_) found requested answers
    rcases breaks.cases_of_find found with
      ⟨none, path, unread⟩ | ⟨_, _, request, fault, requested', mem, hasValue, refused⟩
    · obtain ⟨_, _, opened, _⟩ := requested.opened none
      cases unread.symm.trans opened
    · obtain ⟨rfl, rfl⟩ := requested.unique requested'
      exact answers.printed mem hasValue fault refused
  · exact .brokenOff ending (.precision found requested mem hasValue refused)

theorem ends_of_unread (found : Options.find asked surroundings.read = .ok options)
    (none : options.expressions = []) {fault : FileFault} {path : Path}
    (unread : documentBytes options surroundings = .error (fault, path)) :
    Ends asked surroundings (run options surroundings) := by
  by_cases null : fault = .embeddedNull
  · subst null
    refine .brokenOff ?_ (.embeddedNull found none unread)
    rw [run, if_neg (not_not_intro none), unread]
  · have complained : run options surroundings = .complain (fault.message path) := by
      rw [run, if_neg (not_not_intro none), unread]
      cases fault <;> first | rfl | exact absurd rfl null
    rw [complained]
    refine .complained (fun reason breaks => ?_) (.unread found none unread null)
    rcases breaks.cases_of_find found with ⟨_, _, unread'⟩ | ⟨_, _, _, _, requested, _⟩
    · cases unread.symm.trans unread'
      exact null rfl
    · obtain ⟨_, _, opened, _⟩ := requested.opened none
      cases unread.symm.trans opened

theorem ends_of_undecodable (found : Options.find asked surroundings.read = .ok options)
    (none : options.expressions = []) {name : String} {bytes : List UInt8} {fault : Utf8.Fault}
    (opened : documentBytes options surroundings = .ok (name, bytes))
    (undecodable : documentOf bytes = .error fault) :
    Ends asked surroundings (run options surroundings) := by
  have complained : run options surroundings = .complain fault.message := by
    rw [run, if_neg (not_not_intro none), opened]
    simp only [undecodable]
  rw [complained]
  refine .complained (fun reason breaks => ?_) (.undecodable found none opened undecodable)
  rcases breaks.cases_of_find found with ⟨_, _, unread⟩ | ⟨_, _, _, _, requested, _⟩
  · cases opened.symm.trans unread
  · obtain ⟨_, _, opened', decoded⟩ := requested.opened none
    cases opened.symm.trans opened'
    cases undecodable.symm.trans decoded

/-- **The ends of a run that has its options.** -/
theorem ends_of_find (found : Options.find asked surroundings.read = .ok options) :
    Ends asked surroundings (run options surroundings) := by
  rcases requested_cases options surroundings with
    ⟨_, _, requested⟩ | ⟨none, ⟨_, _, unread⟩ | ⟨_, _, _, opened, undecodable⟩⟩
  · exact ends_of_requested found requested
  · exact ends_of_unread found none unread
  · exact ends_of_undecodable found none opened undecodable

end Ending

/-- Where there are no options, a run breaks off for no other reason than that. -/
theorem not_breaksOff_of_find {surroundings : Surroundings} {fault : NoOptions}
    (found : Options.find asked surroundings.read = .error fault)
    (other : ∀ reason, fault ≠ .breakOff reason) (reason : BreakOff) :
    ¬BreaksOff asked surroundings reason := by
  intro breaks
  cases breaks with
  | early early =>
    cases found.symm.trans (Options.find_of_breaksOffEarly early)
    exact other _ rfl
  | embeddedNull found' => cases found.symm.trans found'
  | precision found' => cases found.symm.trans found'

/-! ## The main statement -/

/-- **The ends of a run.**  A run whose arguments are understood breaks off for one of the reasons
that are listed, and whenever there is one; or it complains and ends with two; or it answers every
request and ends with one if a request failed, with zero if none did. -/
theorem runArguments_ending {arguments : List String}
    (accepted : Arguments.ofList arguments = .ok asked) (surroundings : Surroundings) :
    ∃ report, runArguments arguments surroundings = .ok report ∧
      Ends asked surroundings report := by
  simp only [runArguments, accepted, bind, Except.bind]
  cases found : Options.find asked surroundings.read with
  | ok options => exact ⟨_, rfl, ends_of_find found⟩
  | error fault =>
    cases fault with
    | option fault =>
      exact ⟨_, rfl, .complained (not_breaksOff_of_find found (by simp)) (.option found)⟩
    | configuration cause place =>
      exact ⟨_, rfl, .complained (not_breaksOff_of_find found (by simp)) (.configuration found)⟩
    | breakOff reason =>
      exact ⟨_, rfl, .brokenOff rfl (.early (Options.find_eq_breakOff_iff.1 found))⟩

/-- Bytes of which the first can start no character are not read. -/
theorem decode_of_announce?_eq_none {byte : UInt8} (h : Utf8.announce? byte = none)
    (rest : List UInt8) : Utf8.decode (byte :: rest) = .error ⟨0, byte, 1, .invalidStart⟩ := by
  rw [Utf8.decode, Utf8.decodeFrom, h]

/-- A directory whose configuration document is one byte that is not UTF-8. -/
def undecodableSurroundings : Surroundings where
  input := []
  read := (FileTree.directory [("calcexpr.toml", .file [0xff])]).read

theorem ofList_one : Arguments.ofList ["1"] = .ok ⟨["1"], "", "", none, false, false⟩ := by
  have known : roles ["1"] = .ok [("1", .plain)] := rfl
  simp [Arguments.ofList, known, understand, takePlain, Except.mapError, bind, Except.bind,
    Arguments.none]

theorem breaksOffEarly_undecodable :
    BreaksOffEarly ⟨["1"], "", "", none, false, false⟩ undecodableSurroundings.read
      (.undecodable ⟨0, 0xff, 1, .invalidStart⟩) :=
  .undecodable rfl (decode_of_announce?_eq_none rfl [])

/-- A run in such a directory breaks off, although all that is asked for is one number. -/
theorem runArguments_ending_undecodable :
    Arguments.ofList ["1"] = .ok ⟨["1"], "", "", none, false, false⟩ ∧
    ∃ report, runArguments ["1"] undecodableSurroundings = .ok report ∧
      ∃ reason, report.ending = .error reason ∧
        BreaksOff ⟨["1"], "", "", none, false, false⟩ undecodableSurroundings reason := by
  obtain ⟨report, ran, ends⟩ := runArguments_ending ofList_one undecodableSurroundings
  have breaks : BreaksOff ⟨["1"], "", "", none, false, false⟩ undecodableSurroundings _ :=
    .early breaksOffEarly_undecodable
  cases ends with
  | brokenOff ending reason => exact ⟨ofList_one, report, ran, _, ending, reason⟩
  | complained whole => exact absurd breaks (whole _)
  | answered whole => exact absurd breaks (whole _)

/-- **Not every run that is asked for properly ends with an exit code.** -/
theorem not_forall_runArguments_code :
    ¬∀ arguments asked surroundings, Arguments.ofList arguments = .ok asked →
      ∃ report, runArguments arguments surroundings = .ok report ∧
        (report.ending = .ok 0 ∨ report.ending = .ok 1 ∨ report.ending = .ok 2) := by
  intro claimed
  obtain ⟨report, ran, codes⟩ := claimed ["1"] _ undecodableSurroundings ofList_one
  have broken : runArguments ["1"] undecodableSurroundings =
      .ok ⟨[], .error (.undecodable ⟨0, 0xff, 1, .invalidStart⟩)⟩ := by
    have found := Options.find_of_breaksOffEarly breaksOffEarly_undecodable
    simp only [runArguments, ofList_one, bind, Except.bind, found]
  cases broken.symm.trans ran
  simp at codes

end CommandLine

end Reckon
