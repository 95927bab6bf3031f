import MetricQuery.Text.Basic

/-!
Lines that end with a newline, by number and by the byte they start at. Offsets are words of 64
bits, and a sum of them that is no such word ends the computation it is made for.
-/

set_option autoImplicit false

namespace MetricQuery.Text

/-- How many offsets there are in 64 bits. -/
def offsetCount : Nat := 18446744073709551616

/-- The end of a computation at a number that no word of 64 bits holds. -/
inductive Overflow where
  | addition
  deriving DecidableEq, Repr

/-- What is said about the end of a computation. -/
def Overflow.message : Overflow → String
  | .addition => "attempt to add with overflow"

/-- The sum of two offsets. -/
def addOffsets (a b : Nat) : Except Overflow Nat :=
  if a + b < offsetCount then .ok (a + b) else .error .addition

/-- How many newlines a text has. -/
def newlines (t : Text) : Nat := t.count '\n'

/-- What follows the last newline of a text; all of it when there is none. -/
def lastLine (t : Text) : Text := (t.reverse.takeWhile (· != '\n')).reverse

/-- The start of the line that holds the boundary `pos`, and the number of that line. -/
def lineAt (t : Text) (pos : Nat) : Nat × Nat :=
  let before := (takeBytes? t pos).getD []
  (size before - size (lastLine before), newlines before)

/-- The start of a line, by its number; the end of the text when there are not so many lines. -/
def lineStart : Text → Nat → Nat
  | _, 0 => 0
  | [], _ + 1 => 0
  | c :: t, line + 1 =>
    c.utf8Size + if c = '\n' then lineStart t line else lineStart t (line + 1)

end MetricQuery.Text
