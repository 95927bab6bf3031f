import MetricQuery.Proofs.Boundary
import MetricQuery.Text.Lines
import Mathlib.Data.List.DropRight

/-!
Lines by number and by place. Looking back from a place finds the line that holds it, and counting
lines from the front finds where that line starts; the two agree because everything in front of a
line is whole lines. A column can be added to the start of a line only where the sum is an offset.
-/

set_option autoImplicit false

namespace MetricQuery.Text

variable {text head rest : Text} {a b pos : Nat}

/-- The text is whole lines, each with its newline. -/
def IsWholeLines (t : Text) : Prop := t = [] ∨ t.getLast? = some '\n'

theorem IsWholeLines.tail {c : Char} {t : Text} (whole : IsWholeLines (c :: t)) :
    IsWholeLines t := by
  cases t with
  | nil => exact .inl rfl
  | cons d t =>
    rcases whole with empty | last
    · cases empty
    · exact .inr (by rwa [List.getLast?_cons_cons] at last)

/-- Whole lines that start with another character have a newline further on. -/
theorem IsWholeLines.exists_succ {c : Char} {t : Text} (whole : IsWholeLines (c :: t))
    (other : c ≠ '\n') : ∃ n, newlines t = n + 1 := by
  apply Nat.exists_eq_succ_of_ne_zero
  apply Nat.ne_of_gt
  rw [newlines, List.count_pos_iff]
  rcases whole with empty | last
  · cases empty
  · exact (List.mem_cons.mp (List.mem_of_getLast? last)).resolve_left other.symm

/-- As many lines as a text of whole lines has reach to the end of it. -/
theorem lineStart_append (whole : IsWholeLines head) (rest : Text) :
    lineStart (head ++ rest) (newlines head) = size head := by
  induction head with
  | nil => cases rest <;> rfl
  | cons c head ih =>
    have further := ih whole.tail
    by_cases newline : c = '\n'
    · have count : newlines (c :: head) = newlines head + 1 := by simp [newlines, newline]
      rw [count, List.cons_append, lineStart, if_pos newline, further, size_cons]
    · obtain ⟨n, some⟩ := whole.exists_succ newline
      have count : newlines (c :: head) = n + 1 := by
        rw [← some, newlines, newlines, List.count_cons_of_ne newline]
      rw [count, List.cons_append, lineStart, if_neg newline, ← some, further, size_cons]

/-- In front of the last line of a text there are whole lines, and in it is no newline. -/
theorem exists_append_lastLine (t : Text) :
    ∃ head, t = head ++ lastLine t ∧ IsWholeLines head ∧ '\n' ∉ lastLine t := by
  refine ⟨t.rdropWhile (· != '\n'), ?_, ?_, ?_⟩
  · exact (List.rdropWhile_append_rtakeWhile ..).symm
  · by_cases empty : t.rdropWhile (· != '\n') = []
    · exact .inl empty
    · right
      have newline := List.rdropWhile_last_not (· != '\n') t empty
      rw [List.getLast?_eq_some_getLast empty]
      simpa using newline
  · intro member
    have passed := List.mem_rtakeWhile_imp (p := (· != '\n')) member
    simp at passed

/-- The line that starts at byte `start` and has the number `line` holds the place `pos`. -/
structure LineHolds (text : Text) (pos start line : Nat) : Prop where
  before : start ≤ pos
  unbroken : ∃ between, slice? text start pos = some between ∧ '\n' ∉ between
  starts : lineStart text line = start

/-- Looking back from a boundary finds a line that holds it, whatever stands behind. -/
theorem lineAt_holds (boundary : isBoundary text pos = true) :
    LineHolds text pos (lineAt text pos).1 (lineAt text pos).2 := by
  obtain ⟨before, rest, rfl, rfl⟩ := isBoundary_iff.mp boundary
  obtain ⟨head, split, whole, unbroken⟩ := exists_append_lastLine before
  have bytes : size before = size head + size (lastLine before) := by
    rw [← size_append, ← split]
  have start : (lineAt (before ++ rest) (size before)).1 = size head := by
    simp only [lineAt, takeBytes?_append, Option.getD_some]
    omega
  have number : (lineAt (before ++ rest) (size before)).2 = newlines head := by
    have none : newlines (lastLine before) = 0 := List.count_eq_zero_of_not_mem unbroken
    have count : newlines before = newlines head + newlines (lastLine before) := by
      rw [newlines, newlines, newlines, ← List.count_append, ← split]
    simp only [lineAt, takeBytes?_append, Option.getD_some]
    omega
  have lines : before ++ rest = head ++ (lastLine before ++ rest) := by
    rw [← List.append_assoc, ← split]
  rw [start, number]
  refine ⟨by omega, ⟨lastLine before, ?_, unbroken⟩, ?_⟩
  · rw [bytes, lines]
    exact slice?_append ..
  · rw [lines]
    exact lineStart_append whole _

/-- Two offsets whose sum is an offset again. -/
def Fits (a b : Nat) : Prop := a + b < offsetCount

instance : Decidable (Fits a b) := inferInstanceAs (Decidable (_ < _))

theorem addOffsets_of_fits (fits : Fits a b) : addOffsets a b = .ok (a + b) := if_pos fits

theorem addOffsets_of_not_fits (wide : ¬ Fits a b) : addOffsets a b = .error .addition :=
  if_neg wide

end MetricQuery.Text
