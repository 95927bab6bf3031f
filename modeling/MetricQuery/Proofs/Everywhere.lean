import MetricQuery.Proofs.Reading
import Mathlib.Data.List.Induction

/-!
What holds of every node of a tree. A list production hides nothing: what holds of its parts and
of every list node made on the way holds everywhere below the brackets.
-/

set_option autoImplicit false

namespace MetricQuery

namespace Node

variable {P : Node → Prop}

/-- A property of a node and of everything below it. -/
def Everywhere (P : Node → Prop) (n : Node) : Prop := ∀ m ∈ n.preorder, P m

theorem preorder_eq (n : Node) : n.preorder = n :: n.children.flatMap preorder := by
  cases n
  rw [preorder, preorderAll_eq_flatMap]
  rfl

theorem everywhere_iff {n : Node} : n.Everywhere P ↔ P n ∧ ∀ c ∈ n.children, c.Everywhere P := by
  simp only [Everywhere, n.preorder_eq, List.mem_cons, List.mem_flatMap, forall_eq_or_imp,
    forall_exists_index, and_imp]
  constructor
  · rintro ⟨top, below⟩
    exact ⟨top, fun c child m inside => below m c child inside⟩
  · rintro ⟨top, below⟩
    exact ⟨top, fun m c child inside => below c child m inside⟩

/-- What is below a node of a tree is in the tree. -/
theorem mem_preorder_trans {a b c : Node} (upper : b ∈ a.preorder) (lower : c ∈ b.preorder) :
    c ∈ a.preorder := by
  rw [preorder_eq] at upper ⊢
  rcases List.mem_cons.mp upper with rfl | upper
  · rwa [preorder_eq] at lower
  · obtain ⟨d, child, inside⟩ := List.mem_flatMap.mp upper
    have smaller := sizeOf_lt_of_mem child
    exact List.mem_cons_of_mem _ (List.mem_flatMap.mpr ⟨d, child, mem_preorder_trans inside lower⟩)
termination_by sizeOf a

theorem mem_preorder_of_child {a b c : Node} (upper : b ∈ a.preorder) (child : c ∈ b.children) :
    c ∈ a.preorder := by
  refine mem_preorder_trans upper ?_
  rw [preorder_eq b]
  refine List.mem_cons_of_mem _ (List.mem_flatMap.mpr ⟨c, child, ?_⟩)
  rw [preorder_eq c]
  exact List.mem_cons_self

theorem Everywhere.top {n : Node} (all : n.Everywhere P) : P n := (everywhere_iff.mp all).1

theorem Everywhere.child {n c : Node} (all : n.Everywhere P) (child : c ∈ n.children) :
    c.Everywhere P := (everywhere_iff.mp all).2 c child

theorem Everywhere.below {n m : Node} (all : n.Everywhere P) (member : m ∈ n.preorder) :
    m.Everywhere P := fun k inside => all k (mem_preorder_trans member inside)

theorem everywhere_leaf {kind : NodeKind} {start stop : Nat} (holds : P (leaf kind start stop)) :
    (leaf kind start stop).Everywhere P := by
  rw [everywhere_iff]
  exact ⟨holds, by simp⟩

theorem everywhere_branch {kind : NodeKind} {start stop : Nat} {children : List Node}
    (holds : P (branch kind start stop children)) (below : ∀ c ∈ children, c.Everywhere P) :
    (branch kind start stop children).Everywhere P := by
  rw [everywhere_iff]
  exact ⟨holds, below⟩

theorem everywhere_wrap {kind : NodeKind} {n : Node} (holds : P (wrap kind n))
    (inner : n.Everywhere P) : (wrap kind n).Everywhere P := by
  refine everywhere_branch holds ?_
  simpa using inner

end Node

namespace Parser

variable {P : Node → Prop}

theorem chain_concat (list : NodeKind) (items : List Node) (item : Node) :
    chain list (items ++ [item]) = some (pushItem list (chain list items) item) := by
  rw [chain, List.foldl_append]
  rfl

theorem chain_eq_none {list : NodeKind} {items : List Node} (none : chain list items = none) :
    items = [] := by
  cases items using List.reverseRecOn with
  | nil => rfl
  | append_singleton front last =>
    rw [chain_concat] at none
    cases none

theorem mem_items {parts : List Part} {n : Node} :
    n ∈ parts.filterMap Part.item? ↔ .item n ∈ parts := by
  rw [List.mem_filterMap]
  refine ⟨?_, fun member => ⟨.item n, member, rfl⟩⟩
  rintro ⟨part, member, same⟩
  cases part with
  | item m =>
    obtain rfl := Option.some.inj same
    exact member
  | stray => cases same

theorem mem_strays {parts : List Part} {n : Node} :
    n ∈ parts.filterMap Part.stray? ↔ .stray n ∈ parts := by
  rw [List.mem_filterMap]
  refine ⟨?_, fun member => ⟨.stray n, member, rfl⟩⟩
  rintro ⟨part, member, same⟩
  cases part with
  | item => cases same
  | stray m =>
    obtain rfl := Option.some.inj same
    exact member

/-- Either a child of a list production is the nested list of its items, or it is stray. -/
theorem mem_listChildren {list : NodeKind} {parts : List Part} {n : Node} :
    n ∈ listChildren list parts ↔
      chain list (parts.filterMap Part.item?) = some n ∨ .stray n ∈ parts := by
  rw [listChildren, ordered, (stableSort_perm _ _).mem_iff, List.mem_append, Option.mem_toList,
    mem_strays]

/-- Extending a list one item after another keeps what holds of each list node made. -/
theorem everywhere_foldl_pushItem (list : NodeKind) (items : List Node) (before : Option Node)
    (start : ∀ n ∈ before, n.kind = list ∧ n.Everywhere P)
    (each : ∀ n ∈ items, n.Everywhere P)
    (push : ∀ before : Option Node, (∀ n ∈ before, n.kind = list ∧ n.Everywhere P) →
      ∀ item ∈ items, P (pushItem list before item)) :
    ∀ n ∈ items.foldl (fun before item => some (pushItem list before item)) before,
      n.kind = list ∧ n.Everywhere P := by
  induction items generalizing before with
  | nil => exact start
  | cons item items ih =>
    refine ih _ ?_ (fun n member => each n (List.mem_cons_of_mem _ member))
      (fun before earlier n member => push before earlier n (List.mem_cons_of_mem _ member))
    intro n same
    obtain rfl := Option.mem_some_iff.mp same
    refine ⟨rfl, Node.everywhere_branch (push before start item List.mem_cons_self) ?_⟩
    intro c child
    rcases List.mem_append.mp child with earlier | last
    · exact (start c (Option.mem_toList.mp earlier)).2
    · rw [List.mem_singleton.mp last]
      exact each item List.mem_cons_self

/-- What holds of the parts of a list and of each list node made holds of everything in it. -/
theorem everywhere_listChildren (list : NodeKind) (parts : List Part)
    (each : ∀ part ∈ parts, part.node.Everywhere P)
    (push : ∀ before : Option Node, (∀ n ∈ before, n.kind = list ∧ n.Everywhere P) →
      ∀ item, .item item ∈ parts → P (pushItem list before item)) :
    ∀ n ∈ listChildren list parts, n.Everywhere P := by
  intro n member
  rcases mem_listChildren.mp member with isList | isStray
  · have chained := everywhere_foldl_pushItem (P := P) list (parts.filterMap Part.item?) none
      (by simp) (fun n member => each _ (mem_items.mp member))
      (fun before earlier item member => push before earlier item (mem_items.mp member))
    exact (chained n isList).2
  · exact each _ isStray

end Parser

end MetricQuery
