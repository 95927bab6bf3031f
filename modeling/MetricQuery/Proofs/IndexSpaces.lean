import MetricQuery.Proofs.Boundary
import MetricQuery.Server.Document
import Mathlib.Order.Bounds.Basic

/-!
Index spaces. A place in a document is counted in characters, in bytes, in UTF-16 units and in
lines. Each way of counting gives the items of a list a width: the place in front of an item is the
extent of the items before it, and from a place one comes back to the item that holds it. The two
ways are adjoint, which is all that carrying a place from one space over into another rests on.
-/

set_option autoImplicit false

namespace MetricQuery

section Widths

variable {α : Type} (width : α → Nat)

/-- How much some items take together. -/
def extent : List α → Nat
  | [] => 0
  | a :: as => width a + extent as

/-- The index of the item that holds place `n`; the number of items when the place lies behind all
of them. -/
def indexAt : List α → Nat → Nat
  | [], _ => 0
  | a :: as, n => if width a ≤ n then indexAt as (n - width a) + 1 else 0

variable {width} {as bs : List α} {i j n m : Nat}

@[simp] theorem extent_nil : extent width [] = 0 := rfl

@[simp] theorem extent_cons (a : α) (as : List α) :
    extent width (a :: as) = width a + extent width as := rfl

@[simp] theorem extent_append (as bs : List α) :
    extent width (as ++ bs) = extent width as + extent width bs := by
  induction as with
  | nil => simp
  | cons a as ih => simp [ih, Nat.add_assoc]

theorem extent_take_mono (as : List α) (before : i ≤ j) :
    extent width (as.take i) ≤ extent width (as.take j) := by
  have split : as.take j = as.take i ++ (as.drop i).take (j - i) := by
    rw [← List.take_add, Nat.add_sub_cancel' before]
  rw [split, extent_append]
  exact Nat.le_add_right _ _

theorem extent_take_le (as : List α) (i : Nat) : extent width (as.take i) ≤ extent width as := by
  have whole : extent width (as.take i ++ as.drop i) =
      extent width (as.take i) + extent width (as.drop i) := extent_append _ _
  rw [List.take_append_drop] at whole
  omega

theorem indexAt_le_length (as : List α) (n : Nat) : indexAt width as n ≤ as.length := by
  induction as generalizing n with
  | nil => exact Nat.le_refl 0
  | cons a as ih =>
    rw [indexAt]
    split
    · exact Nat.succ_le_succ (ih _)
    · exact Nat.zero_le _

/-- The items before an index fit in front of a place exactly when the index is not behind the item
that holds the place. -/
theorem le_indexAt_iff (within : i ≤ as.length) :
    i ≤ indexAt width as n ↔ extent width (as.take i) ≤ n := by
  induction as generalizing i n with
  | nil =>
    obtain rfl := Nat.le_zero.mp within
    simp [indexAt]
  | cons a as ih =>
    cases i with
    | zero => simp
    | succ i =>
      have later := ih (i := i) (n := n - width a) (Nat.le_of_succ_le_succ within)
      rw [indexAt, List.take_succ_cons, extent_cons]
      split
      · rw [Nat.succ_le_succ_iff, later]
        omega
      · omega

theorem extent_indexAt_le (as : List α) (n : Nat) :
    extent width (as.take (indexAt width as n)) ≤ n :=
  (le_indexAt_iff (indexAt_le_length as n)).mp (Nat.le_refl _)

theorem indexAt_mono (as : List α) (before : n ≤ m) : indexAt width as n ≤ indexAt width as m := by
  rw [le_indexAt_iff (indexAt_le_length as n)]
  exact Nat.le_trans (extent_indexAt_le as n) before

/-- A place behind the items in front is counted from behind them. -/
theorem indexAt_append (as bs : List α) (n : Nat) :
    indexAt width (as ++ bs) n =
      if extent width as ≤ n then as.length + indexAt width bs (n - extent width as)
      else indexAt width as n := by
  induction as generalizing n with
  | nil => simp
  | cons a as ih =>
    rw [List.cons_append, indexAt, indexAt, ih, extent_cons, List.length_cons]
    by_cases first : width a ≤ n
    · rw [if_pos first, if_pos first]
      by_cases all : extent width as ≤ n - width a
      · rw [if_pos all, if_pos (by omega), Nat.sub_sub]
        omega
      · rw [if_neg all, if_neg (by omega)]
    · rw [if_neg first, if_neg first, if_neg (by omega)]

/-- Places behind all items are held by none of them. -/
theorem indexAt_min (as : List α) (n : Nat) :
    indexAt width as (min n (extent width as)) = indexAt width as n := by
  apply Nat.le_antisymm
  · exact indexAt_mono as (Nat.min_le_left _ _)
  · rw [le_indexAt_iff (indexAt_le_length as n)]
    exact Nat.le_min.mpr ⟨extent_indexAt_le as n, extent_take_le as _⟩

/-- A place within the items in front, their end included, is found among them. -/
theorem indexAt_append_of_le (wide : ∀ b ∈ bs, 0 < width b) (inside : n ≤ extent width as) :
    indexAt width (as ++ bs) n = indexAt width as n := by
  rw [indexAt_append]
  split
  · rename_i reached
    obtain rfl : n = extent width as := Nat.le_antisymm inside reached
    have last : indexAt width as (extent width as) = as.length := by
      apply Nat.le_antisymm (indexAt_le_length as _)
      rw [le_indexAt_iff (Nat.le_refl _), List.take_length]
    have none : indexAt width bs 0 = 0 := by
      cases bs with
      | nil => rfl
      | cons b bs =>
        have positive := wide b List.mem_cons_self
        rw [indexAt, if_neg (by omega)]
    rw [Nat.sub_self, none, last, Nat.add_zero]
  · rfl

/-- From the place in front of an item one comes back to the item. -/
theorem indexAt_extent (wide : ∀ a ∈ as, 0 < width a) (within : i ≤ as.length) :
    indexAt width as (extent width (as.take i)) = i := by
  apply Nat.le_antisymm
  · by_contra behind
    have past : i + 1 ≤ indexAt width as (extent width (as.take i)) := by omega
    have inside : i < as.length :=
      Nat.lt_of_lt_of_le past (indexAt_le_length as _)
    rw [le_indexAt_iff inside, List.take_succ_eq_append_getElem inside, extent_append, extent_cons,
      extent_nil] at past
    have positive := wide as[i] (List.getElem_mem inside)
    omega
  · exact (le_indexAt_iff within).mpr (Nat.le_refl _)

/-- The first items in front of others, and the first ones behind them. -/
theorem extent_take_append (as bs : List α) (i : Nat) :
    extent width ((as ++ bs).take (as.length + i)) =
      extent width as + extent width (bs.take i) := by
  rw [List.take_length_add_append, extent_append]

theorem extent_length (ls : List (List α)) : extent List.length ls = ls.flatten.length := by
  induction ls with
  | nil => rfl
  | cons l ls ih => simp [ih]

end Widths

namespace Text

variable {t : Text} {n : Nat}

theorem size_eq_extent (t : Text) : size t = extent Char.utf8Size t := by
  induction t with
  | nil => rfl
  | cons c t ih => rw [size_cons, extent_cons, ih]

theorem units_eq_extent (t : Text) : units t = extent charUnits t := by
  induction t with
  | nil => rfl
  | cons c t ih => rw [units, extent_cons, ih]

/-- A walk over whole characters that fit in `n`, and that adds up another width of them, gives the
place of the character that holds `n`. -/
theorem eq_extent_indexAt {width added : Char → Nat} {walk : Text → Nat → Nat}
    (nil : ∀ n, walk [] n = 0)
    (cons : ∀ c t n, walk (c :: t) n = if width c ≤ n then added c + walk t (n - width c) else 0)
    (t : Text) (n : Nat) : walk t n = extent added (t.take (indexAt width t n)) := by
  induction t generalizing n with
  | nil => rw [nil, List.take_nil, extent_nil]
  | cons c t ih =>
    rw [cons, indexAt]
    split
    · rw [List.take_succ_cons, extent_cons, ih]
    · rw [List.take_zero, extent_nil]

theorem floor_eq (t : Text) (n : Nat) : floor t n = size (t.take (indexAt Char.utf8Size t n)) := by
  rw [size_eq_extent]
  exact eq_extent_indexAt (fun _ => rfl) (fun _ _ _ => rfl) t n

theorem unitsOfBytes_eq (t : Text) (n : Nat) :
    unitsOfBytes t n = units (t.take (indexAt Char.utf8Size t n)) := by
  rw [units_eq_extent]
  exact eq_extent_indexAt (fun _ => rfl) (fun _ _ _ => rfl) t n

theorem bytesOfUnits_eq (t : Text) (n : Nat) :
    bytesOfUnits t n = size (t.take (indexAt charUnits t n)) := by
  rw [size_eq_extent]
  exact eq_extent_indexAt (fun _ => rfl) (fun _ _ _ => rfl) t n

theorem charUnits_pos (c : Char) : 0 < charUnits c := by
  rw [charUnits]
  split
  · exact Nat.one_pos
  · exact Nat.two_pos

/-- An offset inside the text is held by a character of it. -/
theorem indexAt_bytes_lt (inside : n < size t) : indexAt Char.utf8Size t n < t.length := by
  by_contra behind
  have all := (le_indexAt_iff (Nat.le_refl _)).mp (Nat.le_of_not_lt behind)
  rw [List.take_length, ← size_eq_extent] at all
  omega

/-- What `floor` gives is the greatest boundary that is not above the offset. -/
theorem isGreatest_floor (t : Text) (n : Nat) :
    IsGreatest {b | isBoundary t b = true ∧ b ≤ min n (size t)} (floor t n) := by
  constructor
  · constructor
    · have split := isBoundary_append (t.take (indexAt Char.utf8Size t n))
        (t.drop (indexAt Char.utf8Size t n))
      rwa [List.take_append_drop, ← floor_eq] at split
    · rw [floor_eq, size_eq_extent, size_eq_extent]
      exact Nat.le_min.mpr ⟨extent_indexAt_le t n, extent_take_le t _⟩
  · rintro b ⟨boundary, below⟩
    obtain ⟨front, rest, rfl, rfl⟩ := isBoundary_iff.mp boundary
    have early : front.length ≤ indexAt Char.utf8Size (front ++ rest) n := by
      rw [le_indexAt_iff (by simp), List.take_left, ← size_eq_extent]
      exact Nat.le_trans below (Nat.min_le_left _ _)
    calc size front
      _ = extent Char.utf8Size ((front ++ rest).take front.length) := by
        rw [List.take_left, size_eq_extent]
      _ ≤ extent Char.utf8Size ((front ++ rest).take (indexAt Char.utf8Size (front ++ rest) n)) :=
        extent_take_mono _ early
      _ = floor (front ++ rest) n := by rw [floor_eq, size_eq_extent]

end Text

end MetricQuery
