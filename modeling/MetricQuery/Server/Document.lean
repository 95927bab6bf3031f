import MetricQuery.Position
import MetricQuery.Text.LineBreak
import MetricQuery.Text.Units

/-!
Documents. An editor points into a document by line and UTF-16 units, the rest of the library by
bytes; a document carries one over into the other. What lies beyond the document is taken as the
nearest place in it.
-/

set_option autoImplicit false

namespace MetricQuery

/-- A document: its text. -/
structure Document where
  text : Text
  deriving DecidableEq, Repr

namespace Document

/-- The lines, each with its break. There is always one. -/
def lines (d : Document) : List Text := Text.splitLines d.text

/-- The byte offset of a position among lines. A line beyond the last counts as the last, and a
character beyond the end of its line, break included, as that end. -/
def offsetIn : List Text → Position → Nat
  | [], _ => 0
  | [line], p => Text.bytesOfUnits line p.character
  | line :: _ :: _, ⟨0, character⟩ => Text.bytesOfUnits line character
  | line :: next :: lines, ⟨n + 1, character⟩ =>
    Text.size line + offsetIn (next :: lines) ⟨n, character⟩

/-- The position of a byte offset among lines. The end of a line is the start of the next. -/
def positionIn : List Text → Nat → Position
  | [], _ => ⟨0, 0⟩
  | [line], offset => ⟨0, Text.unitsOfBytes line offset⟩
  | line :: next :: lines, offset =>
    if offset < Text.size line then ⟨0, Text.unitsOfBytes line offset⟩
    else
      let later := positionIn (next :: lines) (offset - Text.size line)
      { later with line := later.line + 1 }

/-- The byte offset of a position. -/
def offset (d : Document) (p : Position) : Nat := offsetIn d.lines p

/-- The position of a byte offset. -/
def position (d : Document) (offset : Nat) : Position := positionIn d.lines offset

/-- The range of the bytes `[start, stop)`. -/
def range (d : Document) (start stop : Nat) : Range := ⟨d.position start, d.position stop⟩

end Document

end MetricQuery
