import MetricQuery.Assistant
import MetricQuery.Server.Document

/-!
The open documents of an editor. Whenever the text of an open document arrives, its diagnostics
are published; a document that is not open has no text, and nothing is said about it.
-/

set_option autoImplicit false

namespace MetricQuery

/-- Open documents, each under its address. -/
abbrev Documents := List (String × Document)

namespace Documents

/-- The document at an address. -/
def get? (ds : Documents) (uri : String) : Option Document :=
  (ds.find? (·.1 == uri)).map Prod.snd

/-- Closes the document at an address. -/
def erase (ds : Documents) (uri : String) : Documents := ds.filter (·.1 != uri)

/-- Puts a document at an address. -/
def insert (ds : Documents) (uri : String) (d : Document) : Documents := (uri, d) :: ds.erase uri

/-- Puts a document at an address where there is one. -/
def update (ds : Documents) (uri : String) (d : Document) : Documents :=
  if (ds.get? uri).isSome then ds.insert uri d else ds

end Documents

/-- What an editor tells about its documents. -/
inductive DocumentEvent where
  | opened (uri : String) (text : Text)
  /-- Each text is the whole document after one change; the last one counts. -/
  | changed (uri : String) (texts : List Text)
  | saved (uri : String) (text : Option Text)
  | closed (uri : String)
  deriving DecidableEq, Repr

/-- The document that an event is about. -/
def DocumentEvent.uri : DocumentEvent → String
  | .opened uri _ | .changed uri _ | .saved uri _ | .closed uri => uri

/-- The text that an event brings. -/
def DocumentEvent.text? : DocumentEvent → Option Text
  | .opened _ text => some text
  | .changed _ texts => texts.getLast?
  | .saved _ text => text
  | .closed _ => none

/-- A diagnostic over a range. -/
structure RangedDiagnostic where
  range : Range
  severity : Severity
  message : String
  deriving DecidableEq, Repr

/-- A diagnostic over the range of its bytes in a document. -/
def RangedDiagnostic.ofDiagnostic (doc : Document) (d : Diagnostic) : RangedDiagnostic :=
  ⟨doc.range d.start d.stop, d.severity, d.message⟩

/-- What a server tells unasked. -/
inductive Notice where
  /-- Something for the log. -/
  | log (message : String)
  /-- All diagnostics of a document. -/
  | diagnostics (uri : String) (found : List RangedDiagnostic)
  deriving DecidableEq, Repr

/-- The open documents, and what the assistant remembers. -/
structure Workspace (σ : Type) where
  documents : Documents
  state : σ

namespace Workspace

variable {σ : Type}

/-- The documents after an event. -/
def documentsAfter (ds : Documents) : DocumentEvent → Documents
  | .opened uri text => ds.insert uri ⟨text⟩
  | .changed uri texts =>
    match texts.getLast? with
    | some text => ds.update uri ⟨text⟩
    | none => ds
  | .saved uri text =>
    match text with
    | some text => ds.update uri ⟨text⟩
    | none => ds
  | .closed uri => ds.erase uri

/-- Publishes the diagnostics of a document, if it is open. -/
def publish (a : Assistant σ) (uri : String) (w : Workspace σ) : Workspace σ × List Notice :=
  match w.documents.get? uri with
  | none => (w, [])
  | some doc =>
    let (found, state) := a.lint doc.text w.state
    ({ w with state := state }, [.diagnostics uri (found.map (.ofDiagnostic doc))])

/-- Takes note of an event, and publishes if it brought a text. -/
def handle (a : Assistant σ) (w : Workspace σ) (e : DocumentEvent) : Workspace σ × List Notice :=
  let w := { w with documents := documentsAfter w.documents e }
  if e.text?.isSome then w.publish a e.uri else (w, [])

end Workspace

end MetricQuery
