import MetricQuery.Text.Basic

/-!
Tables of code points. A table is kept as text: rows with commas between them, each row some
numbers in base sixteen with blanks between them.
-/

set_option autoImplicit false

namespace MetricQuery.Domain

/-- A number in base sixteen. -/
def number (s : String) : Nat :=
  s.toList.foldl (fun n c => n * 16 + (Text.hexValue? c).getD 0) 0

/-- The rows of a table. -/
def rows (lines : List String) : List (List Nat) :=
  lines.flatMap fun line => (line.splitOn ", ").map fun row => (row.splitOn " ").map number

/-- Ranges of code points, first and last. -/
abbrev Ranges := List (Nat × Nat)

namespace Ranges

/-- The ranges of a table; a row of one number is a range of one code point. -/
def ofLines (lines : List String) : Ranges :=
  (rows lines).filterMap fun
    | [c] => some (c, c)
    | [first, last] => some (first, last)
    | _ => none

/-- Whether a code point lies in one of the ranges. -/
def covers (ranges : Ranges) (c : Nat) : Bool :=
  ranges.any fun (first, last) => first ≤ c && c ≤ last

end Ranges

end MetricQuery.Domain
