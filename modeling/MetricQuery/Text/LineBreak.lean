import MetricQuery.Text.Basic

/-!
Line breaks. A line ends after a newline, a carriage return, both together, a vertical tab, a form
feed, a next-line character, or a line or paragraph separator. Every line keeps its break, so the
lines of a text are the text; a break at the very end leaves an empty line after it.
-/

set_option autoImplicit false

namespace MetricQuery.Text

/-- Whether a character breaks a line. -/
def isLineBreak (c : Char) : Bool :=
  (0x0a ≤ c.toNat && c.toNat ≤ 0x0d) || c.toNat == 0x85 || c.toNat == 0x2028 || c.toNat == 0x2029

/-- Puts a character in front of the first line. -/
def extendFirst (c : Char) : List Text → List Text
  | [] => [[c]]
  | line :: lines => (c :: line) :: lines

/-- The lines of a text, each with its break. -/
def splitLines : Text → List Text
  | [] => [[]]
  | '\r' :: '\n' :: t => ['\r', '\n'] :: splitLines t
  | c :: t => if isLineBreak c then [c] :: splitLines t else extendFirst c (splitLines t)

theorem splitLines_ne_nil (t : Text) : splitLines t ≠ [] := by
  fun_induction splitLines t with
  | case1 => simp
  | case2 => simp
  | case3 => simp
  | case4 c t _ _ ih =>
    cases lines : splitLines t with
    | nil => exact absurd lines ih
    | cons line rest => simp [extendFirst]

@[simp] theorem flatten_extendFirst (c : Char) (lines : List Text) :
    (extendFirst c lines).flatten = c :: lines.flatten := by
  cases lines <;> simp [extendFirst]

/-- The lines of a text are the text. -/
@[simp] theorem flatten_splitLines (t : Text) : (splitLines t).flatten = t := by
  fun_induction splitLines t with
  | case1 => rfl
  | case2 t ih => simp [ih]
  | case3 c t _ _ ih => simp [ih]
  | case4 c t _ _ ih => simp [ih]

end MetricQuery.Text
