/-!
Sorting that keeps the order of equals: an element is put in front of the first one that does not
come strictly before it.
-/

set_option autoImplicit false

namespace MetricQuery

variable {α : Type}

/-- Puts an element in front of the first one it may precede. -/
def insertBy (le : α → α → Bool) (a : α) : List α → List α
  | [] => [a]
  | b :: bs => if le a b then a :: b :: bs else b :: insertBy le a bs

/-- Sorts by `le`; equals stay in their order. -/
def stableSort (le : α → α → Bool) (as : List α) : List α := as.foldr (insertBy le) []

theorem insertBy_perm (le : α → α → Bool) (a : α) (bs : List α) :
    (insertBy le a bs).Perm (a :: bs) := by
  induction bs with
  | nil => exact .refl _
  | cons b bs ih =>
    simp only [insertBy]
    split
    · exact .refl _
    · exact (List.Perm.cons b ih).trans (.swap a b bs)

theorem stableSort_perm (le : α → α → Bool) (as : List α) : (stableSort le as).Perm as := by
  induction as with
  | nil => exact .refl _
  | cons a as ih => exact (insertBy_perm le a _).trans (List.Perm.cons a ih)

section Map

variable {β : Type} {le : α → α → Bool} {le' : β → β → Bool} {f : α → β}

theorem insertBy_map (same : ∀ a b, le' (f a) (f b) = le a b) (a : α) (bs : List α) :
    (insertBy le a bs).map f = insertBy le' (f a) (bs.map f) := by
  induction bs with
  | nil => rfl
  | cons b bs ih =>
    simp only [insertBy, List.map_cons, same]
    split
    · rfl
    · rw [List.map_cons, ih]

/-- Sorting and mapping commute when the order is that of the images. -/
theorem stableSort_map (same : ∀ a b, le' (f a) (f b) = le a b) (as : List α) :
    (stableSort le as).map f = stableSort le' (as.map f) := by
  induction as with
  | nil => rfl
  | cons a as ih =>
    change (insertBy le a (stableSort le as)).map f = insertBy le' (f a) (stableSort le' (as.map f))
    rw [insertBy_map same, ih]

end Map

@[simp] theorem length_stableSort (le : α → α → Bool) (as : List α) :
    (stableSort le as).length = as.length :=
  (stableSort_perm le as).length_eq

end MetricQuery
