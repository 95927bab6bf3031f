import MetricQuery.Syntax.Tree

/-!
Ranges of nodes. The range of a branch is the least one that covers what was asked for and every
child; both of its ends are an end that was asked for or an end of a child.
-/

set_option autoImplicit false

namespace MetricQuery.Node

@[simp] theorem leaf_kind (k : NodeKind) (a b : Nat) : (leaf k a b).kind = k := rfl

@[simp] theorem leaf_start (k : NodeKind) (a b : Nat) : (leaf k a b).start = a := rfl

@[simp] theorem leaf_stop (k : NodeKind) (a b : Nat) : (leaf k a b).stop = max b a := rfl

@[simp] theorem leaf_children (k : NodeKind) (a b : Nat) : (leaf k a b).children = [] := rfl

@[simp] theorem branch_kind (k : NodeKind) (a b : Nat) (cs : List Node) :
    (branch k a b cs).kind = k := rfl

@[simp] theorem branch_children (k : NodeKind) (a b : Nat) (cs : List Node) :
    (branch k a b cs).children = cs := rfl

@[simp] theorem wrap_kind (k : NodeKind) (n : Node) : (wrap k n).kind = k := rfl

@[simp] theorem wrap_children (k : NodeKind) (n : Node) : (wrap k n).children = [n] := rfl

/-- The least start among a bound and some nodes. -/
theorem foldl_start (cs : List Node) (a : Nat) :
    let least := cs.foldl (fun a c => min a c.start) a
    (least ≤ a ∧ ∀ c ∈ cs, least ≤ c.start) ∧ (least = a ∨ ∃ c ∈ cs, least = c.start) := by
  induction cs generalizing a with
  | nil => exact ⟨⟨Nat.le_refl a, by simp⟩, .inl rfl⟩
  | cons c cs ih =>
    obtain ⟨⟨bound, children⟩, reached⟩ := ih (min a c.start)
    simp only [List.foldl_cons, List.mem_cons, forall_eq_or_imp, exists_eq_or_imp]
    refine ⟨⟨by omega, by omega, children⟩, ?_⟩
    rcases reached with same | ⟨d, member, same⟩
    · omega
    · exact .inr (.inr ⟨d, member, same⟩)

/-- The greatest stop among a bound and some nodes. -/
theorem foldl_stop (cs : List Node) (b : Nat) :
    let greatest := cs.foldl (fun b c => max b c.stop) b
    (b ≤ greatest ∧ ∀ c ∈ cs, c.stop ≤ greatest) ∧
      (greatest = b ∨ ∃ c ∈ cs, greatest = c.stop) := by
  induction cs generalizing b with
  | nil => exact ⟨⟨Nat.le_refl b, by simp⟩, .inl rfl⟩
  | cons c cs ih =>
    obtain ⟨⟨bound, children⟩, reached⟩ := ih (max b c.stop)
    simp only [List.foldl_cons, List.mem_cons, forall_eq_or_imp, exists_eq_or_imp]
    refine ⟨⟨by omega, by omega, children⟩, ?_⟩
    rcases reached with same | ⟨d, member, same⟩
    · omega
    · exact .inr (.inr ⟨d, member, same⟩)

theorem branch_start_le (k : NodeKind) (a b : Nat) (cs : List Node) :
    (branch k a b cs).start ≤ a := (foldl_start cs a).1.1

theorem branch_start_le_child {k : NodeKind} {a b : Nat} {cs : List Node} {c : Node}
    (child : c ∈ cs) : (branch k a b cs).start ≤ c.start := (foldl_start cs a).1.2 c child

theorem branch_start_cases (k : NodeKind) (a b : Nat) (cs : List Node) :
    (branch k a b cs).start = a ∨ ∃ c ∈ cs, (branch k a b cs).start = c.start :=
  (foldl_start cs a).2

theorem le_branch_stop (k : NodeKind) (a b : Nat) (cs : List Node) :
    max b a ≤ (branch k a b cs).stop := (foldl_stop cs (max b a)).1.1

theorem child_stop_le_branch {k : NodeKind} {a b : Nat} {cs : List Node} {c : Node}
    (child : c ∈ cs) : c.stop ≤ (branch k a b cs).stop := (foldl_stop cs (max b a)).1.2 c child

theorem branch_stop_cases (k : NodeKind) (a b : Nat) (cs : List Node) :
    (branch k a b cs).stop = a ∨ (branch k a b cs).stop = b ∨
      ∃ c ∈ cs, (branch k a b cs).stop = c.stop := by
  rcases (foldl_stop cs (max b a)).2 with same | ⟨c, child, same⟩
  · have top : (branch k a b cs).stop = max b a := same
    omega
  · exact .inr (.inr ⟨c, child, same⟩)

theorem branch_start_le_stop (k : NodeKind) (a b : Nat) (cs : List Node) :
    (branch k a b cs).start ≤ (branch k a b cs).stop := by
  have lower := branch_start_le k a b cs
  have upper := le_branch_stop k a b cs
  omega

@[simp] theorem wrap_start (k : NodeKind) (n : Node) : (wrap k n).start = n.start := by
  change min n.start n.start = n.start
  omega

theorem wrap_stop (k : NodeKind) {n : Node} (ordered : n.start ≤ n.stop) :
    (wrap k n).stop = n.stop := by
  change max (max n.stop n.start) n.stop = n.stop
  omega

@[simp] theorem wrap_leaf_stop (k l : NodeKind) (a b : Nat) :
    (wrap k (leaf l a b)).stop = (leaf l a b).stop :=
  wrap_stop k (by simp only [leaf_start, leaf_stop]; omega)

end MetricQuery.Node
