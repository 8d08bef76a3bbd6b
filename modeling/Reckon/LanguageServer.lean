import Reckon.Calculator

/-!
# Diagnostics for an editor

An editor holds documents and announces each new text of a document.  For every
announcement the diagnostics of that document are published: one for each line that does
not evaluate, in the order of the lines.  Lines are counted from zero here, and a fault
without a place covers its whole line.

What is published depends on the announced text alone.

## The store of documents

The documents are kept by a store that the server is given, and not by the server.  What is
assumed of it is that a document which is opened or changed has from then on the last of the
texts that it was given, and that every other document keeps its own.  `Documents` is the
simplest store that does this; it stands for any other that does.
-/

namespace Reckon

namespace LanguageServer

/-- A stretch of one line of a document, by the number of the line and two columns, all
counted from zero. -/
structure LineRange where
  line : Int
  start : Int
  stop : Int
  deriving DecidableEq, Repr

/-- A fault in a document. -/
structure Diagnostic where
  range : LineRange
  message : String
  deriving DecidableEq, Repr

/-- The severity of every diagnostic, which is that of an error. -/
def severity : Nat := 1

/-- What calls itself the source of the diagnostics. -/
def diagnosticSource : String := "calcexpr"

/-- The diagnostic of a rejected line. -/
def Diagnostic.ofRejection (result : LineResult) (rejection : Rejection) : Diagnostic :=
  let line := result.line - 1
  ⟨if rejection.hasPosition then ⟨line, rejection.start, rejection.stop⟩
    else ⟨line, 0, result.text.length⟩,
    rejection.message⟩

/-- The diagnostic of a result, if its line was rejected. -/
def Diagnostic.ofResult? (result : LineResult) : Option Diagnostic :=
  match result.outcome with
  | .ok _ => none
  | .error rejection => some (.ofRejection result rejection)

/-- The diagnostics of a text. -/
def diagnose (text : String) : Except Failure (List Diagnostic) :=
  (evaluateLines text true).map (·.filterMap Diagnostic.ofResult?)

/-- What an editor announces: that a document is opened with a text, or that its text has
been replaced by each of some texts in turn. -/
inductive Event where
  | opened (uri text : String)
  | changed (uri : String) (texts : List String)

/-- Diagnostics that belong to a document. -/
structure Publication where
  uri : String
  diagnostics : List Diagnostic
  deriving DecidableEq, Repr

/-- The current texts of the documents, the latest first. -/
abbrev Documents := List (String × String)

/-- The text of a document; one that was never opened is empty. -/
def Documents.textOf (documents : Documents) (uri : String) : String :=
  ((documents.find? (·.1 == uri)).map Prod.snd).getD ""

/-- The documents with a document's text replaced. -/
def Documents.put (documents : Documents) (uri text : String) : Documents :=
  (uri, text) :: documents.filter (·.1 != uri)

/-- The document that an event is about. -/
def Event.uri : Event → String
  | opened uri _ => uri
  | changed uri _ => uri

/-- The documents after an event. -/
def Documents.after (documents : Documents) : Event → Documents
  | .opened uri text => documents.put uri text
  | .changed uri texts => texts.foldl (fun documents text => documents.put uri text) documents

/-- What an event publishes, and the documents after it. -/
def handle (documents : Documents) (event : Event) :
    Except Failure (List Publication × Documents) := do
  let documents := documents.after event
  let diagnostics ← diagnose (documents.textOf event.uri)
  .ok ([⟨event.uri, diagnostics⟩], documents)

/-- What events publish in turn. -/
def run (documents : Documents) : List Event → Except Failure (List (List Publication))
  | [] => .ok []
  | event :: rest => do
    let (published, documents) ← handle documents event
    let later ← run documents rest
    .ok (published :: later)

end LanguageServer

end Reckon
