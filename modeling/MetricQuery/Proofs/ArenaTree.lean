import MetricQuery.Proofs.ArenaParsing
import MetricQuery.Proofs.WellFormed

/-!
The tree in an arena. When the parser is done, the forest is a single tree: every node that was made
is in it once, and the links that were stored on the way lead through all of it. What the arena
stores is what the syntax tree says, node by node: its ranges, and who is whose parent.
-/

set_option autoImplicit false

namespace MetricQuery

/-- Some way down along the children that are stored leads from one node to another. -/
inductive Arena.Reaches (a : Arena) (root : NodeId) : NodeId → Prop
  | here : Reaches a root root
  | down {n c : NodeId} (way : Reaches a root n) (child : c ∈ a.children n) : Reaches a root c

namespace ArenaTree

/-- The root covers the text, the stored links agree and lead to every node that was made, and
ranges nest and can be cut out of the text. -/
structure WellFormed (t : ArenaTree) : Prop where
  root : ∃ r, t.arena.nodes[t.root]? = some r ∧ r.kind = .query ∧ r.start = 0 ∧
    r.stop = t.size ∧ r.parent = none
  reachable : ∀ id < t.count, t.arena.Reaches t.root id
  listed_once : ∃ ids, t.descendants = some ids ∧ ids.Nodup ∧ ∀ id, id ∈ ids ↔ id < t.count
  child_iff_parent : ∀ c n, c ∈ t.arena.children n ↔ t.arena.parent? c = some n
  child_once : ∀ n, (t.arena.children n).Nodup
  ordered : ∀ r ∈ t.arena.nodes, r.start ≤ r.stop ∧ r.stop ≤ t.size
  nested : ∀ r ∈ t.arena.nodes, ∀ c ∈ r.children,
    ∃ below, t.arena.nodes[c]? = some below ∧ r.start ≤ below.start ∧ below.stop ≤ r.stop
  boundaries : ∀ r ∈ t.arena.nodes,
    Text.isBoundary t.text r.start = true ∧ Text.isBoundary t.text r.stop = true
  readable : ∀ r ∈ t.arena.nodes, (Text.slice? t.text r.start r.stop).isSome = true

/-- Where a place of the syntax tree is in the arena. -/
def place? (t : ArenaTree) (c : Cursor) : Option NodeId := t.arena.follow t.root c.path.reverse

/-- An arena stores a syntax tree: the nodes are listed in the same order, and each has the kind and
the range of its counterpart, and the counterparts of its parent and of its children. -/
structure Draws (t : ArenaTree) (tree : SyntaxTree) : Prop where
  text : t.text = tree.text
  root : t.arena.tree? t.count t.root = some tree.root
  listed : t.descendants.map (·.map some) = some (tree.cursors.map t.place?)
  stored : ∀ c ∈ tree.cursors, ∃ id r, t.place? c = some id ∧ t.arena.nodes[id]? = some r ∧
    r.kind = c.node.kind ∧ r.start = c.node.start ∧ r.stop = c.node.stop ∧
    r.parent = c.parent?.bind t.place? ∧ r.children.map some = c.children.map t.place?

end ArenaTree

namespace Numbered

theorem sizeOf_lt_of_child {t c : Numbered} (child : c ∈ t.children) : sizeOf c < sizeOf t := by
  obtain ⟨id, kind, start, stop, cs⟩ := t
  have smaller := List.sizeOf_lt_of_mem child
  simp only [children, mk.sizeOf_spec] at *
  omega

theorem self_mem_subtrees (t : Numbered) : t ∈ t.subtrees := by
  rw [subtrees_eq]
  exact List.mem_cons_self

theorem subtrees_of_child {t c u : Numbered} (child : c ∈ t.children) (inside : u ∈ c.subtrees) :
    u ∈ t.subtrees := by
  rw [subtrees_eq]
  exact List.mem_cons_of_mem _ (List.mem_flatMap.mpr ⟨c, child, inside⟩)

theorem child_mem_subtrees {t u c : Numbered} (inside : u ∈ t.subtrees) (child : c ∈ u.children) :
    c ∈ t.subtrees := by
  rw [subtrees_eq] at inside
  rcases List.mem_cons.mp inside with rfl | below
  · exact subtrees_of_child child c.self_mem_subtrees
  · obtain ⟨d, between, inside⟩ := List.mem_flatMap.mp below
    have smaller := sizeOf_lt_of_child between
    exact subtrees_of_child between (child_mem_subtrees inside child)
termination_by sizeOf t

theorem children_node (t : Numbered) : t.node.children = t.children.map node := by
  obtain ⟨id, kind, start, stop, cs⟩ := t
  rw [node_mk]
  rfl

theorem preorder_node (t : Numbered) : t.node.preorder = t.subtrees.map node := by
  have below : ∀ c ∈ t.children, c.node.preorder = c.subtrees.map node := by
    intro c child
    have smaller := sizeOf_lt_of_child child
    exact preorder_node c
  rw [Node.preorder_eq, subtrees_eq, List.map_cons, List.map_flatMap, children_node,
    List.flatMap_map]
  exact congrArg _ (List.flatMap_congr below)
termination_by sizeOf t

theorem map_id_sublist (ts : List Numbered) : (ts.map id).Sublist (ts.flatMap ids) := by
  induction ts with
  | nil => exact .refl _
  | cons t ts ih =>
    rw [List.map_cons, List.flatMap_cons, ids, subtrees_eq, List.map_cons, List.cons_append]
    exact (ih.trans (List.sublist_append_right _ _)).cons_cons _

theorem ids_sublist_flatMap {ts : List Numbered} {t : Numbered} (member : t ∈ ts) :
    t.ids.Sublist (ts.flatMap ids) := by
  rw [List.flatMap_def]
  exact List.sublist_flatten_of_mem (List.mem_map_of_mem member)

theorem ids_sublist {t u : Numbered} (inside : u ∈ t.subtrees) : u.ids.Sublist t.ids := by
  rw [subtrees_eq] at inside
  rcases List.mem_cons.mp inside with rfl | below
  · exact .refl _
  · obtain ⟨c, child, inside⟩ := List.mem_flatMap.mp below
    have smaller := sizeOf_lt_of_child child
    refine (ids_sublist inside).trans ?_
    obtain ⟨id, kind, start, stop, cs⟩ := t
    rw [ids_mk]
    exact (ids_sublist_flatMap child).cons _
termination_by sizeOf t

end Numbered

namespace Arena

variable {a : Arena} {t u : Numbered} {id : NodeId} {r : NodeRecord}

/-- A tree below a stored tree is stored; its parent is the one of the whole tree, or the node that
it is a child of. -/
theorem Stores.subtree {parent : Option NodeId} (stores : a.Stores parent t)
    (inside : u ∈ t.subtrees) :
    u = t ∧ a.Stores parent u ∨
      ∃ v ∈ t.subtrees, u ∈ v.children ∧ a.Stores (some v.id) u := by
  induction stores with
  | @intro parent t found below ih =>
    rw [Numbered.subtrees_eq] at inside
    rcases List.mem_cons.mp inside with rfl | deeper
    · exact .inl ⟨rfl, .intro found below⟩
    · obtain ⟨c, child, inside⟩ := List.mem_flatMap.mp deeper
      rcases ih c child inside with ⟨rfl, stores⟩ | ⟨v, among, isChild, stores⟩
      · exact .inr ⟨t, t.self_mem_subtrees, child, stores⟩
      · exact .inr ⟨v, Numbered.subtrees_of_child child among, isChild, stores⟩

/-- Where nodes are taken off the stack, the ones of the stored trees on it come out in order. -/
theorem visit_stored {steps : Nat} {ts : List Numbered}
    (stored : ∀ t ∈ ts, ∃ parent, a.Stores parent t)
    (enough : (ts.flatMap Numbered.ids).length ≤ steps) :
    a.visit steps (ts.map Numbered.id) = some (ts.flatMap Numbered.ids) := by
  induction steps generalizing ts with
  | zero =>
    cases ts with
    | nil => rfl
    | cons t ts => simp [Numbered.ids, Numbered.subtrees_eq t] at enough
  | succ steps ih =>
    cases ts with
    | nil => rfl
    | cons t ts =>
      obtain ⟨parent, stores⟩ := stored t List.mem_cons_self
      have unfolded : (t :: ts).flatMap Numbered.ids =
          t.id :: (t.children ++ ts).flatMap Numbered.ids := by
        obtain ⟨id, kind, start, stop, cs⟩ := t
        simp [Numbered.children]
      have later : ∀ c ∈ t.children ++ ts, ∃ parent, a.Stores parent c := by
        intro c member
        rcases List.mem_append.mp member with child | waiting
        · exact ⟨some t.id, stores.child child⟩
        · exact stored c (List.mem_cons_of_mem t waiting)
      rw [unfolded, List.length_cons] at enough
      have run := ih later (by omega)
      rw [List.map_append] at run
      rw [unfolded, List.map_cons, visit, stores.found]
      change (a.visit steps (t.children.map Numbered.id ++ ts.map Numbered.id)).bind _ = _
      rw [run]
      rfl

/-- What works on each of some trees works on all of them. -/
theorem mapM_stored {f : NodeId → Option Node} {ts : List Numbered}
    (each : ∀ t ∈ ts, f t.id = some t.node) :
    (ts.map Numbered.id).mapM f = some (ts.map Numbered.node) := by
  induction ts with
  | nil => rfl
  | cons t ts ih =>
    have later := ih fun u member => each u (List.mem_cons_of_mem t member)
    rw [List.map_cons, List.mapM_cons, each t List.mem_cons_self, later]
    rfl

/-- The tree below the root of a stored tree is that tree. -/
theorem tree?_stored {parent : Option NodeId} {levels : Nat} (stores : a.Stores parent t)
    (enough : t.ids.length ≤ levels) : a.tree? levels t.id = some t.node := by
  induction stores generalizing levels with
  | @intro parent t found _ ih =>
    obtain ⟨id, kind, start, stop, cs⟩ := t
    rw [Numbered.ids_mk, List.length_cons] at enough
    obtain ⟨fewer, rfl⟩ := Nat.exists_eq_add_of_le' (Nat.le_trans (Nat.le_add_left 1 _) enough)
    have below : ∀ c ∈ cs, a.tree? fewer c.id = some c.node := by
      intro c child
      have within := (Numbered.ids_sublist_flatMap child).length_le
      exact ih c child (Nat.le_trans within (Nat.le_of_succ_le_succ enough))
    rw [tree?, found, Numbered.node_mk]
    change ((cs.map Numbered.id).mapM (a.tree? fewer)).bind _ = _
    rw [mapM_stored below]
    simp [Numbered.record]

namespace Forest

theorem ids_perm (forest : a.Forest [t]) : t.ids.Perm (List.range a.nodes.size) := by
  have once := forest.once
  rwa [List.flatMap_singleton] at once

theorem length_ids (forest : a.Forest [t]) : t.ids.length = a.nodes.size := by
  rw [forest.ids_perm.length_eq, List.length_range]

/-- Every node that was made is the root of a tree below the only one. -/
theorem exists_subtree (forest : a.Forest [t]) (made : id < a.nodes.size) :
    ∃ u ∈ t.subtrees, u.id = id := by
  exact List.mem_map.mp (forest.ids_perm.mem_iff.mpr (List.mem_range.mpr made))

theorem exists_stored (forest : a.Forest [t]) (inside : u ∈ t.subtrees) :
    u = t ∧ a.Stores none u ∨ ∃ v ∈ t.subtrees, u ∈ v.children ∧ a.Stores (some v.id) u :=
  (forest.stored t List.mem_cons_self).subtree inside

theorem stored_subtree (forest : a.Forest [t]) (inside : u ∈ t.subtrees) :
    ∃ parent, a.Stores parent u := by
  rcases forest.exists_stored inside with ⟨-, stores⟩ | ⟨v, -, -, stores⟩
  · exact ⟨none, stores⟩
  · exact ⟨some v.id, stores⟩

/-- What is stored anywhere is what a tree below the only one says. -/
theorem exists_record (forest : a.Forest [t]) (found : a.nodes[id]? = some r) :
    ∃ u ∈ t.subtrees, u.id = id ∧ ∃ parent, r = u.record parent := by
  obtain ⟨u, inside, rfl⟩ := forest.exists_subtree (Array.getElem?_eq_some_iff.mp found).1
  obtain ⟨parent, stores⟩ := forest.stored_subtree inside
  rw [stores.found] at found
  exact ⟨u, inside, rfl, parent, (Option.some.inj found).symm⟩

theorem children_eq (forest : a.Forest [t]) (inside : u ∈ t.subtrees) :
    a.children u.id = u.children.map Numbered.id := by
  obtain ⟨parent, stores⟩ := forest.stored_subtree inside
  rw [children, stores.found]
  rfl

theorem parent?_root (forest : a.Forest [t]) : a.parent? t.id = none := by
  rw [parent?, (forest.stored t List.mem_cons_self).found]
  rfl

theorem parent?_child (forest : a.Forest [t]) {c : Numbered} (inside : u ∈ t.subtrees)
    (child : c ∈ u.children) : a.parent? c.id = some u.id := by
  obtain ⟨parent, stores⟩ := forest.stored_subtree inside
  rw [parent?, (stores.child child).found]
  rfl

/-- The two ways in which a link is stored agree. -/
theorem child_iff_parent (forest : a.Forest [t]) (c n : NodeId) :
    c ∈ a.children n ↔ a.parent? c = some n := by
  constructor
  · intro child
    cases found : a.nodes[n]? with
    | none => simp [children, found] at child
    | some r =>
      obtain ⟨u, inside, rfl, -⟩ := forest.exists_record found
      rw [forest.children_eq inside] at child
      obtain ⟨v, below, rfl⟩ := List.mem_map.mp child
      exact forest.parent?_child inside below
  · intro up
    cases found : a.nodes[c]? with
    | none => simp [parent?, found] at up
    | some r =>
      obtain ⟨v, inside, rfl, -⟩ := forest.exists_record found
      rcases forest.exists_stored inside with ⟨rfl, -⟩ | ⟨u, among, child, -⟩
      · rw [forest.parent?_root] at up
        cases up
      · rw [forest.parent?_child among child] at up
        cases up
        rw [forest.children_eq among]
        exact List.mem_map_of_mem child

theorem children_nodup (forest : a.Forest [t]) (n : NodeId) : (a.children n).Nodup := by
  cases found : a.nodes[n]? with
  | none => simp [children, found]
  | some r =>
    obtain ⟨u, inside, rfl, -⟩ := forest.exists_record found
    have once := forest.ids_perm.nodup_iff.mpr List.nodup_range
    have below := once.sublist (Numbered.ids_sublist inside)
    obtain ⟨id, kind, start, stop, cs⟩ := u
    rw [Numbered.ids_mk, List.nodup_cons] at below
    rw [forest.children_eq inside]
    exact below.2.sublist (Numbered.map_id_sublist cs)

/-- Wherever the links lead to, they lead on to everything below. -/
theorem reaches {u v : Numbered} {root : NodeId} (forest : a.Forest [t])
    (inside : u ∈ t.subtrees) (way : a.Reaches root u.id) (below : v ∈ u.subtrees) :
    a.Reaches root v.id := by
  rw [Numbered.subtrees_eq] at below
  rcases List.mem_cons.mp below with rfl | deeper
  · exact way
  · obtain ⟨c, child, deeper⟩ := List.mem_flatMap.mp deeper
    have smaller := Numbered.sizeOf_lt_of_child child
    have link : c.id ∈ a.children u.id := by
      rw [forest.children_eq inside]
      exact List.mem_map_of_mem child
    exact forest.reaches (Numbered.child_mem_subtrees inside child) (way.down link) deeper
termination_by sizeOf u

theorem visit_eq (forest : a.Forest [t]) : a.visit a.nodes.size [t.id] = some t.ids := by
  have stored : ∀ u ∈ [t], ∃ parent, a.Stores parent u :=
    fun u member => ⟨none, forest.stored u member⟩
  have enough : ([t].flatMap Numbered.ids).length ≤ a.nodes.size := by
    rw [List.flatMap_singleton]
    exact Nat.le_of_eq forest.length_ids
  have all := visit_stored stored enough
  rwa [List.flatMap_singleton] at all

end Forest

theorem follow_append (a : Arena) (root : NodeId) (path : List Nat) (index : Nat) :
    a.follow root (path ++ [index]) =
      (a.follow root path).bind fun id => (a.children id)[index]? := by
  induction path generalizing root with
  | nil =>
    rw [List.nil_append, follow, follow, Option.bind_some]
    cases (a.children root)[index]? <;> rfl
  | cons first path ih =>
    rw [List.cons_append, follow, follow]
    cases (a.children root)[first]? with
    | none => rfl
    | some child => exact ih child

end Arena

namespace ArenaTree

variable {t : ArenaTree} {whole u : Numbered} {c : Cursor}

/-- A place of the syntax tree and a tree in the arena are counterparts. -/
structure At (t : ArenaTree) (whole : Numbered) (c : Cursor) (u : Numbered) : Prop where
  inside : u ∈ whole.subtrees
  node : u.node = c.node
  place : t.place? c = some u.id

/-- The child at a place has the child at that place for a counterpart. -/
theorem At.child (counterparts : At t whole c u) (forest : t.arena.Forest [whole]) {index : Nat}
    {v : Numbered} (found : u.children[index]? = some v) :
    ∃ d, c.children[index]? = some d ∧ At t whole d v := by
  have below : c.node.children[index]? = some v.node := by
    rw [← counterparts.node, Numbered.children_node, List.getElem?_map, found]
    rfl
  refine ⟨⟨v.node, ⟨c.node, index⟩ :: c.frames⟩, ?_, ?_, rfl, ?_⟩
  · rw [Cursor.getElem?_children, Cursor.childAt?, below]
    rfl
  · exact Numbered.child_mem_subtrees counterparts.inside (List.mem_of_getElem? found)
  · change t.arena.follow t.root (index :: c.path).reverse = _
    have up : t.arena.follow t.root c.path.reverse = some u.id := counterparts.place
    rw [List.reverse_cons, Arena.follow_append, up, Option.bind_some,
      forest.children_eq counterparts.inside, List.getElem?_map, found]
    rfl

theorem At.length_children (counterparts : At t whole c u) :
    c.children.length = u.children.length := by
  rw [← List.length_map Cursor.node, Cursor.children_map_node, ← counterparts.node,
    Numbered.children_node, List.length_map]

theorem At.exists_child (counterparts : At t whole c u) (forest : t.arena.Forest [whole])
    {d : Cursor} (isChild : d ∈ c.children) : ∃ v ∈ u.children, At t whole d v := by
  obtain ⟨index, within, rfl⟩ := List.getElem_of_mem isChild
  rw [counterparts.length_children] at within
  obtain ⟨d, same, related⟩ := counterparts.child forest (List.getElem?_eq_getElem within)
  obtain ⟨_, rfl⟩ := List.getElem?_eq_some_iff.mp same
  exact ⟨_, List.getElem_mem within, related⟩

/-- What agrees on counterparts agrees on all their children. -/
theorem At.map_children {α : Type} {f : Cursor → α} {g : Numbered → α}
    (counterparts : At t whole c u) (forest : t.arena.Forest [whole])
    (same : ∀ d, ∀ v ∈ u.children, At t whole d v → f d = g v) :
    c.children.map f = u.children.map g := by
  refine List.ext_getElem (by simp [counterparts.length_children]) fun index left right => ?_
  rw [List.length_map] at left right
  obtain ⟨d, found, related⟩ := counterparts.child forest (List.getElem?_eq_getElem right)
  obtain ⟨_, rfl⟩ := List.getElem?_eq_some_iff.mp found
  rw [List.getElem_map, List.getElem_map]
  exact same _ _ (List.getElem_mem right) related

/-- The places below a place are those of the trees below its counterpart, in the same order. -/
theorem At.map_below {c : Cursor} {u : Numbered} (counterparts : At t whole c u)
    (forest : t.arena.Forest [whole]) : c.below.map t.place? = u.ids.map some := by
  have lower : c.children.map (fun d => d.below.map t.place?) =
      u.children.map fun v => v.ids.map some := by
    refine counterparts.map_children forest fun d v child related => ?_
    have smaller := Numbered.sizeOf_lt_of_child child
    exact related.map_below forest
  have unfolded : u.ids = u.id :: u.children.flatMap Numbered.ids := by
    rw [Numbered.ids, Numbered.subtrees_eq, List.map_cons, List.map_flatMap]
    rfl
  rw [Cursor.below_eq, unfolded, List.map_cons, List.map_cons, counterparts.place,
    List.map_flatMap, List.map_flatMap, List.flatMap_def, List.flatMap_def, lower]
termination_by sizeOf u

/-- Every place has a counterpart, whose parent is the counterpart of its parent. -/
theorem exists_at {root : Node} (top : At t whole (.ofRoot root) whole)
    (forest : t.arena.Forest [whole]) (way : (Cursor.ofRoot root).Reaches c) :
    ∃ u, At t whole c u ∧ t.arena.parent? u.id = c.parent?.bind t.place? := by
  induction way with
  | here => exact ⟨whole, top, forest.parent?_root⟩
  | @down c d _ isChild ih =>
    obtain ⟨u, counterparts, -⟩ := ih
    obtain ⟨v, child, related⟩ := counterparts.exists_child forest isChild
    refine ⟨v, related, ?_⟩
    rw [forest.parent?_child counterparts.inside child, Cursor.parent?_of_mem_children isChild,
      Option.bind_some, counterparts.place]

/-- An arena with nothing but one tree stores the syntax tree that this stands for. -/
theorem draws_of_forest {tree : SyntaxTree} (forest : t.arena.Forest [whole])
    (text : t.text = tree.text) (isRoot : t.root = whole.id) (isNode : whole.node = tree.root) :
    t.Draws tree := by
  have top : At t whole (.ofRoot tree.root) whole :=
    ⟨whole.self_mem_subtrees, isNode, congrArg some isRoot⟩
  refine ⟨text, ?_, ?_, fun c among => ?_⟩
  · rw [isRoot, ← isNode, count, ← forest.length_ids]
    exact Arena.tree?_stored (forest.stored whole List.mem_cons_self) (Nat.le_refl _)
  · rw [descendants, count, isRoot, forest.visit_eq]
    exact congrArg some (top.map_below forest).symm
  · obtain ⟨u, counterparts, up⟩ := exists_at top forest (SyntaxTree.mem_cursors_iff.mp among)
    obtain ⟨parent, stores⟩ := forest.stored_subtree counterparts.inside
    rw [Arena.parent?, stores.found] at up
    have same := counterparts.node
    refine ⟨u.id, u.record parent, counterparts.place, stores.found, congrArg Node.kind same,
      congrArg Node.start same, congrArg Node.stop same, up, ?_⟩
    rw [counterparts.map_children forest fun d v _ related => related.place]
    exact List.map_map

/-- It is well-formed when that is. -/
theorem wellFormed_of_forest {tree : SyntaxTree} (forest : t.arena.Forest [whole])
    (text : t.text = tree.text) (isRoot : t.root = whole.id) (isNode : whole.node = tree.root)
    (wellFormed : tree.WellFormed) : t.WellFormed := by
  have size : t.size = tree.size := by rw [size, text, SyntaxTree.size]
  -- Whatever is stored is one of the nodes of the tree.
  have known : ∀ r ∈ t.arena.nodes,
      ∃ u ∈ whole.subtrees, u.node ∈ tree.nodes ∧ ∃ parent, r = u.record parent := by
    intro r member
    obtain ⟨id, found⟩ := Array.getElem?_of_mem member
    obtain ⟨u, inside, -, parent, same⟩ := forest.exists_record found
    refine ⟨u, inside, ?_, parent, same⟩
    rw [SyntaxTree.nodes, ← isNode, Numbered.preorder_node]
    exact List.mem_map_of_mem inside
  constructor
  · refine ⟨_, isRoot ▸ (forest.stored whole List.mem_cons_self).found, ?_, ?_, ?_, rfl⟩
    · exact (congrArg Node.kind isNode).trans wellFormed.root_kind
    · exact (congrArg Node.start isNode).trans wellFormed.root_start
    · exact (congrArg Node.stop isNode).trans (wellFormed.root_stop.trans size.symm)
  · intro id made
    obtain ⟨u, inside, rfl⟩ := forest.exists_subtree made
    rw [isRoot]
    exact forest.reaches whole.self_mem_subtrees .here inside
  · refine ⟨whole.ids, ?_, forest.ids_perm.nodup_iff.mpr List.nodup_range, fun id => ?_⟩
    · rw [descendants, count, isRoot, forest.visit_eq]
    · rw [forest.ids_perm.mem_iff, List.mem_range, count]
  · exact forest.child_iff_parent
  · exact forest.children_nodup
  · intro r member
    obtain ⟨u, -, isNode, parent, rfl⟩ := known r member
    rw [size]
    exact wellFormed.ordered _ isNode
  · intro r member c child
    obtain ⟨u, inside, isNode, parent, rfl⟩ := known r member
    obtain ⟨v, below, rfl⟩ := List.mem_map.mp child
    obtain ⟨up, stores⟩ := forest.stored_subtree (Numbered.child_mem_subtrees inside below)
    refine ⟨_, stores.found, wellFormed.nested _ isNode _ ?_⟩
    rw [Numbered.children_node]
    exact List.mem_map_of_mem below
  · intro r member
    obtain ⟨u, -, isNode, parent, rfl⟩ := known r member
    rw [text]
    exact wellFormed.boundaries _ isNode
  · intro r member
    obtain ⟨u, -, isNode, parent, rfl⟩ := known r member
    rw [text]
    exact wellFormed.readable _ isNode

/-- Whatever the tokens, the parser makes a single tree, that of the plain parser. -/
theorem exists_ofTokens (tokens : List Token) (text : Text) :
    ∃ t whole, ofTokens tokens text = some t ∧ t.text = text ∧ t.arena.Forest [whole] ∧
      t.root = whole.id ∧ whole.node = (SyntaxTree.ofTokens tokens text).root := by
  obtain ⟨_, _, b, run, forest, whole, rfl, rfl, isNode⟩ :=
    Building.query_builds (Text.size text) .empty [] Arena.forest_empty
  refine ⟨⟨text, b, whole.id⟩, whole, ?_, rfl, forest, rfl, isNode⟩
  rw [ofTokens, run]
  rfl

theorem exists_wellFormed {tokens : List Token} {text : Text}
    (wellFormed : (SyntaxTree.ofTokens tokens text).WellFormed) :
    ∃ t, ofTokens tokens text = some t ∧ t.WellFormed ∧
      t.Draws (SyntaxTree.ofTokens tokens text) := by
  obtain ⟨t, whole, made, same, forest, isRoot, isNode⟩ := exists_ofTokens tokens text
  exact ⟨t, made, wellFormed_of_forest forest same isRoot isNode wellFormed,
    draws_of_forest forest same isRoot isNode⟩

/-- Whatever the text, and however many of its tokens are read, what the parser makes in the arena
is well-formed, and it is the syntax tree. -/
theorem ofTokens_take_wellFormed (text : Text) :
    (∃ t, parse text = some t ∧ t.WellFormed ∧ t.Draws (SyntaxTree.parse text)) ∧
      ∀ count, ∃ t, ofTokens ((Token.scan text).take count) text = some t ∧ t.WellFormed ∧
        t.Draws (SyntaxTree.ofTokens ((Token.scan text).take count) text) :=
  ⟨exists_wellFormed (SyntaxTree.parse_wellFormed text),
    fun count => exists_wellFormed (SyntaxTree.take_wellFormed text count)⟩

end ArenaTree

end MetricQuery
