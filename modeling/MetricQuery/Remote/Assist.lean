import MetricQuery.Completion.Assembly
import MetricQuery.Order.Stable
import MetricQuery.Remote.Service
import MetricQuery.Text.Lines

/-!
Completion and linting by a language service. Its lines and characters become byte offsets of the
text; offsets beyond the end are taken as the end. A character is added to the start of its line
before it is cut off, so one that is too large for the sum ends the work.
-/

set_option autoImplicit false

namespace MetricQuery.Remote

variable {σ : Type}

/-- The character sent for a cursor in the given column: the one last typed, not the one after
it. -/
def cursorCharacter (column : Nat) : Nat := if 1 < column then column - 1 else column

/-- The candidate of an item. It inserts its label unless it says otherwise. -/
def Item.toCandidate (item : Item) : Candidate where
  label := item.label
  detail := item.detail
  info := none
  kind :=
    match item.kind with
    | some 12 => some .constant
    | some 3 => some .function
    | _ => none
  apply := some ((item.edit.map Edit.newText).getD item.label)

/-- Where the last edit among items starts, on a line that starts at `lineStart`, but not beyond
`pos`; the start of the line when no item has an edit. -/
def replacedFrom (items : List Item) (lineStart pos : Nat) : Except Text.Overflow Nat :=
  match items.reverse.findSome? Item.edit with
  | some edit => (Text.addOffsets lineStart edit.range.start.character).map (min · pos)
  | none => .ok lineStart

/-- Completes a text at the boundary at or below `pos`; nothing when the service fails. -/
def complete (service : Service) (transport : Http.Transport σ) (limit : Nat) (text : Text)
    (pos : Nat) (s : σ) : Except Text.Overflow (Option CompletionResult) × σ :=
  let pos := Text.floor text pos
  let (lineStart, line) := Text.lineAt text pos
  let query : Query :=
    ⟨String.ofList text, limit, some line, some (cursorCharacter (pos - lineStart))⟩
  match service.items transport query s with
  | (.ok items, s) =>
    ((replacedFrom items lineStart pos).map fun start =>
      some ⟨start, pos, items.map Item.toCandidate, none⟩, s)
  | (.error _, s) => (.ok none, s)

/-- The byte offset of a position, the end of the text at most. -/
def offsetOf (text : Text) (p : Position) : Except Text.Overflow Nat :=
  (Text.addOffsets (Text.lineStart text p.line) p.character).map (min · (Text.size text))

/-- The diagnostic of a complaint. -/
def Complaint.toDiagnostic (text : Text) (c : Complaint) : Except Text.Overflow Diagnostic := do
  let start ← offsetOf text c.range.start
  let stop ← offsetOf text c.range.stop
  return ⟨start, max stop start, .error, c.message⟩

/-- Lints a text: what the service complains about, sorted by where it starts. -/
def lint (service : Service) (transport : Http.Transport σ) (limit : Nat) (text : Text) (s : σ) :
    Except Text.Overflow (Except Fault (List Diagnostic)) × σ :=
  match service.complaints transport ⟨String.ofList text, limit, none, none⟩ s with
  | (.ok complaints, s) =>
    ((complaints.mapM (Complaint.toDiagnostic text)).map fun found =>
      .ok (stableSort Diagnostic.le found), s)
  | (.error fault, s) => (.ok (.error fault), s)

end MetricQuery.Remote
