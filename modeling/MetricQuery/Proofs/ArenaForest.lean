import MetricQuery.Syntax.Arena
import Mathlib.Data.List.Nodup
import Mathlib.Data.List.Pairwise
import Mathlib.Data.List.Perm.Basic

/-!
Forests in an arena. A numbered tree says where each of its nodes is; an arena stores it when the
records there agree with it, the parents included. The nodes made so far are a forest: each of them
is in one of its trees, and in one place only. Making a node takes some trees out of the forest and
puts the one over them in.
-/

set_option autoImplicit false

namespace MetricQuery

/-- A tree that tells the places of its nodes. -/
inductive Numbered where
  | mk (id : NodeId) (kind : NodeKind) (start stop : Nat) (children : List Numbered)

namespace Numbered

/-- The place of the root. -/
def id : Numbered → NodeId
  | mk id _ _ _ _ => id

def children : Numbered → List Numbered
  | mk _ _ _ _ children => children

mutual

/-- The tree without the places. -/
def node : Numbered → Node
  | mk _ kind start stop children => .mk kind start stop (nodeAll children)

def nodeAll : List Numbered → List Node
  | [] => []
  | t :: ts => node t :: nodeAll ts

end

mutual

/-- The tree and all trees below it, parents before children, in source order. -/
def subtrees : Numbered → List Numbered
  | mk id kind start stop children => mk id kind start stop children :: subtreesAll children

def subtreesAll : List Numbered → List Numbered
  | [] => []
  | t :: ts => subtrees t ++ subtreesAll ts

end

/-- The places of all nodes. -/
def ids (t : Numbered) : List NodeId := t.subtrees.map id

theorem nodeAll_eq_map (ts : List Numbered) : nodeAll ts = ts.map node := by
  induction ts with
  | nil => rfl
  | cons t ts ih => rw [nodeAll, ih, List.map_cons]

theorem subtreesAll_eq_flatMap (ts : List Numbered) : subtreesAll ts = ts.flatMap subtrees := by
  induction ts with
  | nil => rfl
  | cons t ts ih => rw [subtreesAll, ih, List.flatMap_cons]

theorem subtrees_eq (t : Numbered) : t.subtrees = t :: t.children.flatMap subtrees := by
  obtain ⟨id, kind, start, stop, cs⟩ := t
  rw [subtrees, subtreesAll_eq_flatMap]
  rfl

@[simp] theorem node_mk (id : NodeId) (kind : NodeKind) (start stop : Nat) (cs : List Numbered) :
    (mk id kind start stop cs).node = .mk kind start stop (cs.map node) := by
  rw [node, nodeAll_eq_map]

@[simp] theorem ids_mk (id : NodeId) (kind : NodeKind) (start stop : Nat) (cs : List Numbered) :
    (mk id kind start stop cs).ids = id :: cs.flatMap ids := by
  rw [ids, subtrees_eq, List.map_cons, List.map_flatMap]
  rfl

@[simp] theorem id_mk (id : NodeId) (kind : NodeKind) (start stop : Nat) (cs : List Numbered) :
    (mk id kind start stop cs).id = id := rfl

theorem id_mem_ids (t : Numbered) : t.id ∈ t.ids := by
  obtain ⟨id, kind, start, stop, cs⟩ := t
  rw [ids_mk]
  exact List.mem_cons_self

theorem mem_ids_of_child {t c : Numbered} {id : NodeId} (child : c ∈ t.children)
    (member : id ∈ c.ids) : id ∈ t.ids := by
  obtain ⟨root, kind, start, stop, cs⟩ := t
  rw [ids_mk]
  exact List.mem_cons_of_mem _ (List.mem_flatMap.mpr ⟨c, child, member⟩)

/-- What an arena that stores the tree has for its root, given the parent. -/
def record (parent : Option NodeId) (t : Numbered) : NodeRecord :=
  ⟨t.node.kind, t.node.start, t.node.stop, parent, t.children.map id⟩

end Numbered

namespace Arena

/-- An arena has the records of a tree, the root of which has a parent or none. -/
inductive Stores (a : Arena) : Option NodeId → Numbered → Prop
  | intro {parent : Option NodeId} {t : Numbered}
      (found : a.nodes[t.id]? = some (t.record parent))
      (below : ∀ c ∈ t.children, Stores a (some t.id) c) : Stores a parent t

namespace Stores

variable {a b : Arena} {parent other : Option NodeId} {t : Numbered}

theorem found (stores : a.Stores parent t) : a.nodes[t.id]? = some (t.record parent) := by
  cases stores with
  | intro found => exact found

theorem child (stores : a.Stores parent t) {c : Numbered} (child : c ∈ t.children) :
    a.Stores (some t.id) c := by
  cases stores with
  | intro _ below => exact below c child

theorem lt_size (stores : a.Stores parent t) : t.id < a.nodes.size := by
  have found := stores.found
  exact (Array.getElem?_eq_some_iff.mp found).1

/-- A tree stays stored where its records stay. -/
theorem congr (stores : a.Stores parent t) (same : ∀ id ∈ t.ids, b.nodes[id]? = a.nodes[id]?) :
    b.Stores parent t := by
  induction stores with
  | @intro parent t found _ ih =>
    refine .intro ?_ fun c child => ih c child fun id member => ?_
    · rw [same t.id t.id_mem_ids, found]
    · exact same id (Numbered.mem_ids_of_child child member)

/-- A tree gets another parent where its root does and its other records stay. -/
theorem adopted (stores : a.Stores parent t) (once : t.ids.Nodup)
    (found : b.nodes[t.id]? = some (t.record other))
    (same : ∀ id ∈ t.ids, id ≠ t.id → b.nodes[id]? = a.nodes[id]?) : b.Stores other t := by
  refine .intro found fun c child => (stores.child child).congr fun id member => ?_
  refine same id (Numbered.mem_ids_of_child child member) ?_
  rintro rfl
  obtain ⟨root, kind, start, stop, cs⟩ := t
  rw [Numbered.ids_mk, List.nodup_cons] at once
  exact once.1 (List.mem_flatMap.mpr ⟨c, child, member⟩)

end Stores

/-- Every node of an arena is in exactly one of some trees, which have no parents. -/
structure Forest (a : Arena) (ts : List Numbered) : Prop where
  stored : ∀ t ∈ ts, a.Stores none t
  once : (ts.flatMap Numbered.ids).Perm (List.range a.nodes.size)

namespace Forest

variable {a : Arena} {ts us : List Numbered}

theorem perm (forest : a.Forest ts) (same : ts.Perm us) : a.Forest us where
  stored t member := forest.stored t (same.mem_iff.mpr member)
  once := (same.symm.flatMap_right Numbered.ids).trans forest.once

theorem nodup (forest : a.Forest ts) : (ts.flatMap Numbered.ids).Nodup :=
  forest.once.nodup_iff.mpr List.nodup_range

theorem lt_size (forest : a.Forest ts) {t : Numbered} {id : NodeId} (member : t ∈ ts)
    (inside : id ∈ t.ids) : id < a.nodes.size :=
  List.mem_range.mp (forest.once.mem_iff.mp (List.mem_flatMap.mpr ⟨t, member, inside⟩))

/-- No node is in two trees of a forest. -/
theorem eq_of_mem_ids (forest : a.Forest ts) {t u : Numbered} {id : NodeId} (first : t ∈ ts)
    (second : u ∈ ts) (inside : id ∈ t.ids) (also : id ∈ u.ids) : t = u := by
  have symmetric : Std.Symm (Function.onFun List.Disjoint Numbered.ids) :=
    ⟨fun _ _ apart _ first second => apart second first⟩
  by_contra other
  exact (List.nodup_flatMap.mp forest.nodup).2.forall first second other inside also

end Forest

theorem forest_empty : empty.Forest [] where
  stored _ member := nomatch member
  once := .refl _

/-- Adopting children widens a range to each of them and changes nothing but who their parent is. -/
theorem foldlM_adopt (parent : NodeId) {a : Arena} {ts : List Numbered} (start stop : Nat)
    (stored : ∀ t ∈ ts, ∃ r, a.nodes[t.id]? = some r ∧ r.start = t.node.start ∧
      r.stop = t.node.stop) :
    ∃ b : Arena, (ts.map Numbered.id).foldlM (adopt parent) (a, start, stop) =
        some (b, (ts.map Numbered.node).foldl (fun n c => min n c.start) start,
          (ts.map Numbered.node).foldl (fun n c => max n c.stop) stop) ∧
      b.nodes.size = a.nodes.size ∧
      ∀ id, b.nodes[id]? = a.nodes[id]?.map fun r =>
        if id ∈ ts.map Numbered.id then { r with parent := some parent } else r := by
  induction ts generalizing a start stop with
  | nil => exact ⟨a, rfl, rfl, by simp⟩
  | cons t ts ih =>
    obtain ⟨r, found, isStart, isStop⟩ := stored t List.mem_cons_self
    let linked : Arena := ⟨a.nodes.setIfInBounds t.id { r with parent := some parent }⟩
    have within := (Array.getElem?_eq_some_iff.mp found).1
    have lookup : ∀ id, linked.nodes[id]? = a.nodes[id]?.map fun r =>
        if id = t.id then { r with parent := some parent } else r := by
      intro id
      by_cases same : id = t.id
      · subst same
        rw [Array.getElem?_setIfInBounds_self_of_lt within, found]
        simp
      · simp [linked, same, Array.getElem?_setIfInBounds_ne (Ne.symm same)]
    have later : ∀ u ∈ ts, ∃ r, linked.nodes[u.id]? = some r ∧ r.start = u.node.start ∧
        r.stop = u.node.stop := by
      intro u member
      obtain ⟨ru, foundU, isStart, isStop⟩ := stored u (List.mem_cons_of_mem t member)
      rw [lookup, foundU]
      refine ⟨_, rfl, ?_⟩
      split <;> exact ⟨isStart, isStop⟩
    obtain ⟨b, run, size, result⟩ := ih (min start t.node.start) (max stop t.node.stop) later
    refine ⟨b, ?_, ?_, fun id => ?_⟩
    · have step : adopt parent (a, start, stop) t.id =
          some (linked, min start t.node.start, max stop t.node.stop) := by
        simp only [adopt, found, Option.map_some, isStart, isStop, linked]
      rw [List.map_cons, List.foldlM_cons, step]
      exact run
    · rw [size]
      exact Array.size_setIfInBounds
    · rw [result, lookup, Option.map_map]
      congr 1
      funext r
      simp only [Function.comp_apply, List.map_cons, List.mem_cons]
      by_cases same : id = t.id <;> by_cases among : id ∈ ts.map Numbered.id <;>
        simp [same, among]

/-- One arena is another with a node made over some trees. -/
structure Adds (a : Arena) (cs : List Numbered) (t : Numbered) (b : Arena) : Prop where
  id : t.id = a.nodes.size
  children : t.children = cs
  size : b.nodes.size = a.nodes.size + 1
  added : b.nodes[a.nodes.size]? = some (t.record none)
  others : ∀ id < a.nodes.size, b.nodes[id]? = a.nodes[id]?.map fun r =>
    if id ∈ cs.map Numbered.id then { r with parent := some a.nodes.size } else r

/-- Making a node over stored trees works, and gives a branch over them. -/
theorem node_adds {a : Arena} {cs : List Numbered} (stored : ∀ t ∈ cs, a.Stores none t)
    (kind : NodeKind) (start stop : Nat) :
    ∃ (t : Numbered) (b : Arena), a.node kind start stop (cs.map Numbered.id) = some (t.id, b) ∧
      t.node = .branch kind start stop (cs.map Numbered.node) ∧ a.Adds cs t b := by
  obtain ⟨b, run, size, result⟩ := foldlM_adopt a.nodes.size start (max stop start)
    fun t member => ⟨_, (stored t member).found, rfl, rfl⟩
  let made : Numbered := .mk a.nodes.size kind
    ((cs.map Numbered.node).foldl (fun n c => min n c.start) start)
    ((cs.map Numbered.node).foldl (fun n c => max n c.stop) (max stop start)) cs
  refine ⟨made, ⟨b.nodes.push (made.record none)⟩, ?_, Numbered.node_mk .., rfl, rfl, ?_, ?_, ?_⟩
  · rw [node, run]
    simp [made, Numbered.record, Numbered.children]
  · rw [Array.size_push, size]
  · rw [← size]
    exact Array.getElem?_push_size
  · intro id within
    rw [Array.getElem?_push, if_neg (by omega), result]

/-- The node that is made takes the place of the trees it is made over. -/
theorem Adds.forest {a b : Arena} {rest cs : List Numbered} {t : Numbered} (adds : a.Adds cs t b)
    (forest : a.Forest (rest ++ cs)) : b.Forest (rest ++ [t]) := by
  have kept : ∀ id < a.nodes.size, id ∉ cs.map Numbered.id → b.nodes[id]? = a.nodes[id]? := by
    intro id within other
    rw [adds.others id within]
    simp [other]
  have ids : (rest ++ [t]).flatMap Numbered.ids =
      rest.flatMap Numbered.ids ++ a.nodes.size :: cs.flatMap Numbered.ids := by
    obtain ⟨id, kind, start, stop, children⟩ := t
    obtain rfl : id = a.nodes.size := adds.id
    obtain rfl : children = cs := adds.children
    simp
  constructor
  · intro u member
    rcases List.mem_append.mp member with before | new
    · -- A tree that stays has no root in common with the ones that are taken.
      have among := List.mem_append_left cs before
      refine (forest.stored u among).congr fun id inside => kept id (forest.lt_size among inside) ?_
      intro isChild
      obtain ⟨c, child, rfl⟩ := List.mem_map.mp isChild
      have nodup := forest.nodup
      rw [List.flatMap_append] at nodup
      exact (List.nodup_append'.mp nodup).2.2 (List.mem_flatMap.mpr ⟨u, before, inside⟩)
        (List.mem_flatMap.mpr ⟨c, child, c.id_mem_ids⟩)
    · obtain rfl := List.mem_singleton.mp new
      refine .intro (by rw [adds.id, adds.added]) fun c child => ?_
      rw [adds.children] at child
      have among := List.mem_append_right rest child
      have stores := forest.stored c among
      have once := (List.nodup_flatMap.mp forest.nodup).1 c among
      refine stores.adopted once ?_ fun id inside other => kept id (forest.lt_size among inside) ?_
      · rw [adds.others _ stores.lt_size, stores.found, Option.map_some,
          if_pos (List.mem_map_of_mem child), ← adds.id]
        rfl
      · intro isChild
        obtain ⟨d, sibling, rfl⟩ := List.mem_map.mp isChild
        have same := forest.eq_of_mem_ids among (List.mem_append_right rest sibling) inside
          d.id_mem_ids
        exact other (same ▸ rfl)
  · have once := forest.once
    rw [List.flatMap_append] at once
    rw [ids, adds.size, List.range_succ]
    calc rest.flatMap Numbered.ids ++ a.nodes.size :: cs.flatMap Numbered.ids
        |>.Perm (a.nodes.size :: (rest.flatMap Numbered.ids ++ cs.flatMap Numbered.ids)) :=
          List.perm_middle
      _ |>.Perm (a.nodes.size :: List.range a.nodes.size) := once.cons _
      _ |>.Perm (List.range a.nodes.size ++ [a.nodes.size]) := (List.perm_append_singleton _ _).symm

end Arena

end MetricQuery
