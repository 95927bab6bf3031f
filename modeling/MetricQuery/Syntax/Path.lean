import MetricQuery.Syntax.Cursor

/-!
Paths through a tree: up to an enclosing kind, down along a list of kinds, and along the chain of
a list production. A list is nested to the left: each list node holds the list before it and then
one item.
-/

set_option autoImplicit false

namespace MetricQuery

/-- Where a walk down a path of kinds ends. -/
inductive Walk (α : Type) where
  /-- Every step found a child. -/
  | found (place : α)
  /-- A node without children was reached before the path ended. -/
  | absent
  /-- A node had children, but none of the next kind. -/
  | unsatisfied
  deriving Repr

namespace Walk

/-- The end of a walk that got there. -/
def found? {α : Type} : Walk α → Option α
  | .found place => some place
  | _ => none

/-- Whether the walk got to its end. -/
def isFound {α : Type} (w : Walk α) : Bool := w.found?.isSome

end Walk

namespace Node

/-- Follows `path` down, at each step into the first child of the next kind. -/
def walk (n : Node) : List NodeKind → Walk Node
  | [] => .found n
  | kind :: path =>
    if n.children.isEmpty then .absent
    else
      match n.child? kind with
      | some c => c.walk path
      | none => .unsatisfied

/-- The node at the end of a path, if it can be followed. -/
def at? (n : Node) (path : List NodeKind) : Option Node := (n.walk path).found?

/-- Whether a child has one of `kinds`. -/
def hasChildOf (n : Node) (kinds : List NodeKind) : Bool :=
  n.children.any fun c => kinds.contains c.kind

/-- Whether `kinds` occur among the kinds of siblings, in this order but not always adjacent. -/
def inOrder : List NodeKind → List Node → Bool
  | [], _ => true
  | _ :: _, [] => false
  | kind :: kinds, c :: cs =>
    if c.kind = kind then inOrder kinds cs else inOrder (kind :: kinds) cs

/-- Whether the children contain `kinds` in this order. -/
def hasChildren (n : Node) (kinds : List NodeKind) : Bool := inOrder kinds n.children

/-- The items of a list: for every node of the chain of `list` children, the innermost first, its
last child if that has kind `item`. -/
def items (list item : NodeKind) (n : Node) : List Node :=
  let own := (n.last?.filter (·.kind == item)).toList
  match _h : n.child? list with
  | some inner => items list item inner ++ own
  | none => own
termination_by sizeOf n
decreasing_by exact sizeOf_child?_lt _h

theorem sizeOf_walk_le {c n : Node} {path : List NodeKind} (h : n.walk path = .found c) :
    sizeOf c ≤ sizeOf n := by
  induction path generalizing n with
  | nil => simp only [walk, Walk.found.injEq] at h; simp [h]
  | cons kind path ih =>
    simp only [walk] at h
    split at h
    · cases h
    · split at h
      · rename_i inner found
        exact Nat.le_of_lt (Nat.lt_of_le_of_lt (ih h) (sizeOf_child?_lt found))
      · cases h

theorem walk_of_at? {c n : Node} {path : List NodeKind} (h : n.at? path = some c) :
    n.walk path = .found c := by
  simp only [at?, Walk.found?] at h
  split at h
  · rename_i place found
    simp_all
  · cases h

/-- A path of one step or more leads to a smaller node. -/
theorem sizeOf_at?_lt {c n : Node} {kind : NodeKind} {path : List NodeKind}
    (h : n.at? (kind :: path) = some c) : sizeOf c < sizeOf n := by
  have found := walk_of_at? h
  simp only [walk] at found
  split at found
  · cases found
  · split at found
    · rename_i inner step
      exact Nat.lt_of_le_of_lt (sizeOf_walk_le found) (sizeOf_child?_lt step)
    · cases found

/-- An item of a list is smaller than the node that holds the list. -/
theorem sizeOf_items_lt {c n : Node} {list item : NodeKind} (h : c ∈ n.items list item) :
    sizeOf c < sizeOf n := by
  fun_induction items list item n with
  | case1 n own inner found ih =>
    rcases List.mem_append.1 h with h | h
    · exact Nat.lt_trans (ih h) (sizeOf_child?_lt found)
    · exact sizeOf_last?_lt (by simp_all [own, Option.filter_eq_some_iff])
  | case2 n own _ =>
    exact sizeOf_last?_lt (by simp_all [own, Option.filter_eq_some_iff])

end Node

namespace Cursor

/-- Follows `path` down, at each step into the first child of the next kind. -/
def walk? (c : Cursor) : List NodeKind → Option Cursor
  | [] => some c
  | kind :: path => (c.child? kind).bind (·.walk? path)

/-- The nearest node of a kind, from the node itself upwards. -/
def enclosing? (c : Cursor) (kind : NodeKind) : Option Cursor :=
  go kind c.node c.frames
where
  go (kind : NodeKind) (node : Node) : List Frame → Option Cursor
    | [] => if node.kind = kind then some ⟨node, []⟩ else none
    | f :: fs => if node.kind = kind then some ⟨node, f :: fs⟩ else go kind f.parent fs

theorem sizeOf_node_lt_of_mem {c d : Cursor} (h : d ∈ c.children) :
    sizeOf d.node < sizeOf c.node := by
  simp only [children, List.mem_map, Prod.exists] at h
  obtain ⟨child, index, mem, rfl⟩ := h
  exact Node.sizeOf_lt_of_mem (List.fst_mem_of_mem_zipIdx mem)

/-- The items of a list, as `Node.items` gives them, each with its way up. -/
def items (list item : NodeKind) (c : Cursor) : List Cursor :=
  let own := (c.last?.filter (·.kind == item)).toList
  match _h : c.child? list with
  | some inner => items list item inner ++ own
  | none => own
termination_by sizeOf c.node
decreasing_by exact sizeOf_node_lt_of_mem (List.mem_of_find?_eq_some _h)

end Cursor

end MetricQuery
