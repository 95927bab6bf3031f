import MetricQuery.Text.Basic

/-!
Character boundaries. A byte offset is a boundary exactly when it is the size of some first part
of the text, and between two boundaries there is always a slice.
-/

set_option autoImplicit false

namespace MetricQuery.Text

theorem utf8Size_ne_zero (c : Char) : c.utf8Size ≠ 0 := Nat.ne_of_gt c.utf8Size_pos

theorem size_pos {t : Text} (nonempty : t ≠ []) : 0 < size t := by
  cases t with
  | nil => exact absurd rfl nonempty
  | cons c t =>
    have wide := c.utf8Size_pos
    simp only [size_cons]
    omega

@[simp] theorem dropBytes?_zero (t : Text) : dropBytes? t 0 = some t := by
  cases t <;> rfl

@[simp] theorem takeBytes?_zero (t : Text) : takeBytes? t 0 = some [] := by
  cases t <;> rfl

/-- Stepping over a whole character, whatever its width. -/
theorem dropBytes?_cons (c : Char) (t : Text) (n : Nat) :
    dropBytes? (c :: t) (c.utf8Size + n) = dropBytes? t n := by
  obtain ⟨width, same⟩ := Nat.exists_eq_succ_of_ne_zero (utf8Size_ne_zero c)
  have total : c.utf8Size + n = width + n + 1 := by omega
  rw [total, dropBytes?, if_pos (by omega)]
  congr 1
  omega

theorem takeBytes?_cons (c : Char) (t : Text) (n : Nat) :
    takeBytes? (c :: t) (c.utf8Size + n) = (takeBytes? t n).map (c :: ·) := by
  obtain ⟨width, same⟩ := Nat.exists_eq_succ_of_ne_zero (utf8Size_ne_zero c)
  have total : c.utf8Size + n = width + n + 1 := by omega
  rw [total, takeBytes?, if_pos (by omega)]
  congr 2
  omega

theorem dropBytes?_append (s t : Text) : dropBytes? (s ++ t) (size s) = some t := by
  induction s with
  | nil => exact dropBytes?_zero t
  | cons c s ih =>
    rw [List.cons_append, size_cons, dropBytes?_cons]
    exact ih

theorem takeBytes?_append (s t : Text) : takeBytes? (s ++ t) (size s) = some s := by
  induction s with
  | nil => exact takeBytes?_zero t
  | cons c s ih =>
    rw [List.cons_append, size_cons, takeBytes?_cons, ih]
    rfl

/-- What is dropped up to a boundary has exactly the bytes that were asked for. -/
theorem exists_append_of_dropBytes? {t rest : Text} {n : Nat} (found : dropBytes? t n = some rest) :
    ∃ front, t = front ++ rest ∧ size front = n := by
  fun_induction dropBytes? t n with
  | case1 t =>
    cases found
    exact ⟨[], rfl, rfl⟩
  | case2 => cases found
  | case3 c t n fits ih =>
    obtain ⟨front, rfl, same⟩ := ih found
    refine ⟨c :: front, rfl, ?_⟩
    simp only [size_cons, same]
    omega
  | case4 => cases found

theorem isBoundary_append (s t : Text) : isBoundary (s ++ t) (size s) = true := by
  simp only [isBoundary, dropBytes?_append, Option.isSome_some]

theorem isBoundary_iff {t : Text} {n : Nat} :
    isBoundary t n = true ↔ ∃ front rest, t = front ++ rest ∧ size front = n := by
  constructor
  · intro boundary
    obtain ⟨rest, found⟩ := Option.isSome_iff_exists.mp boundary
    obtain ⟨front, same, bytes⟩ := exists_append_of_dropBytes? found
    exact ⟨front, rest, same, bytes⟩
  · rintro ⟨front, rest, rfl, rfl⟩
    exact isBoundary_append front rest

theorem isBoundary_zero (t : Text) : isBoundary t 0 = true := isBoundary_append [] t

theorem isBoundary_size (t : Text) : isBoundary t (size t) = true := by
  simpa only [List.append_nil] using isBoundary_append t []

theorem le_size_of_isBoundary {t : Text} {n : Nat} (boundary : isBoundary t n = true) :
    n ≤ size t := by
  obtain ⟨front, rest, rfl, rfl⟩ := isBoundary_iff.mp boundary
  simp only [size_append]
  omega

/-- Of two first parts of one text the one with fewer bytes is a first part of the other. -/
theorem exists_append_of_size_le {a b r s : Text} (same : a ++ r = b ++ s)
    (shorter : size a ≤ size b) : ∃ m, b = a ++ m := by
  rcases List.append_eq_append_iff.mp same with ⟨m, longer, -⟩ | ⟨m, longer, -⟩
  · exact ⟨m, longer⟩
  · have bytes : size m = 0 := by
      rw [longer, size_append] at shorter
      omega
    by_cases empty : m = []
    · exact ⟨[], by simp [longer, empty]⟩
    · exact absurd bytes (Nat.ne_of_gt (size_pos empty))

theorem le_of_slice? {t middle : Text} {start stop : Nat}
    (found : slice? t start stop = some middle) : start ≤ stop := by
  rw [slice?] at found
  split at found
  · assumption
  · cases found

theorem slice?_append (front middle rest : Text) :
    slice? (front ++ (middle ++ rest)) (size front) (size front + size middle) = some middle := by
  rw [slice?, if_pos (Nat.le_add_right _ _), dropBytes?_append, Option.bind_some,
    Nat.add_sub_cancel_left, takeBytes?_append]

/-- Between two boundaries in order there is a slice of all the bytes between them. -/
theorem exists_slice {t : Text} {start stop : Nat} (ordered : start ≤ stop)
    (first : isBoundary t start = true) (last : isBoundary t stop = true) :
    ∃ middle, slice? t start stop = some middle ∧ start + size middle = stop := by
  obtain ⟨front, rest, rfl, rfl⟩ := isBoundary_iff.mp first
  obtain ⟨before, after, same, rfl⟩ := isBoundary_iff.mp last
  obtain ⟨middle, rfl⟩ := exists_append_of_size_le same ordered
  rw [List.append_assoc, List.append_cancel_left_eq] at same
  subst same
  refine ⟨middle, ?_, (size_append front middle).symm⟩
  rw [size_append]
  exact slice?_append front middle after

theorem slice?_isSome {t : Text} {start stop : Nat} (ordered : start ≤ stop)
    (first : isBoundary t start = true) (last : isBoundary t stop = true) :
    (slice? t start stop).isSome = true := by
  obtain ⟨middle, found, -⟩ := exists_slice ordered first last
  rw [found]
  rfl

/-- A range that is not empty has text. -/
theorem sliceString_ne_empty {t : Text} {start stop : Nat} (wide : start < stop)
    (first : isBoundary t start = true) (last : isBoundary t stop = true) :
    (sliceString t start stop).isEmpty = false := by
  obtain ⟨middle, found, bytes⟩ := exists_slice (Nat.le_of_lt wide) first last
  have nonempty : middle ≠ [] := by
    rintro rfl
    simp at bytes
    omega
  rw [sliceString, found, Option.getD_some]
  simpa using nonempty

end MetricQuery.Text
