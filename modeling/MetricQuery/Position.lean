import MetricQuery.Json.Record

/-!
Positions as editors give them: a line and a character in it, both counted from 0. What a
character is depends on who counts.
-/

set_option autoImplicit false

namespace MetricQuery

/-- A line and a character in it. -/
structure Position where
  line : Nat
  character : Nat
  deriving DecidableEq, Repr

/-- From one position up to another. -/
structure Range where
  start : Position
  stop : Position
  deriving DecidableEq, Repr

/-- A text to put in the place of a range. -/
structure Edit where
  range : Range
  newText : String
  deriving DecidableEq, Repr

/-- A position as JSON. -/
def Position.toJson (p : Position) : Json :=
  .object [("character", .nat p.character), ("line", .nat p.line)]

/-- A range as JSON. -/
def Range.toJson (r : Range) : Json :=
  .object [("end", r.stop.toJson), ("start", r.start.toJson)]

/-- An edit as JSON. -/
def Edit.toJson (e : Edit) : Json :=
  .object [("newText", .string e.newText), ("range", e.range.toJson)]

/-- Reads a position. -/
def Position.read? (value : Json) : Option Position := do
  let r ← value.record? ["line", "character"]
  return ⟨← r.required "line" (Json.natOfBits? 64), ← r.required "character" (Json.natOfBits? 64)⟩

/-- Reads a range. -/
def Range.read? (value : Json) : Option Range := do
  let r ← value.record? ["start", "end"]
  return ⟨← r.required "start" Position.read?, ← r.required "end" Position.read?⟩

/-- Reads an edit. -/
def Edit.read? (value : Json) : Option Edit := do
  let r ← value.record? ["range", "newText"]
  return ⟨← r.required "range" Range.read?, ← r.required "newText" Json.string?⟩

end MetricQuery
