import MetricQuery.Syntax.Path
import Mathlib.Data.List.Nodup

/-!
Places in a tree. A place is a cursor that some way down from the root leads to. The list of
cursors of a tree names every place once, parents before children, and the way up from a place is
the way down to it.
-/

set_option autoImplicit false

namespace MetricQuery

namespace Cursor

/-- The cursor and everything below it, in preorder. -/
def below (c : Cursor) : List Cursor := c.node.cursors c.frames

/-- Some way down, of any length, leads from one cursor to another. -/
inductive Reaches (c : Cursor) : Cursor → Prop
  | here : Reaches c c
  | down {d e : Cursor} : Reaches c d → e ∈ d.children → Reaches c e

theorem Reaches.trans {c d e : Cursor} (upper : c.Reaches d) (lower : d.Reaches e) :
    c.Reaches e := by
  induction lower with
  | here => exact upper
  | down _ child ih => exact ih.down child

theorem mem_children {c d : Cursor} :
    d ∈ c.children ↔
      ∃ index, c.node.children[index]? = some d.node ∧ d.frames = ⟨c.node, index⟩ :: c.frames := by
  obtain ⟨node, frames⟩ := d
  simp only [children, List.mem_map, Prod.exists, Cursor.mk.injEq, List.mem_zipIdx_iff_getElem?]
  constructor
  · rintro ⟨child, index, found, rfl, rfl⟩
    exact ⟨index, found, rfl⟩
  · rintro ⟨index, found, rfl⟩
    exact ⟨node, index, found, rfl, rfl⟩

theorem parent?_of_mem_children {c d : Cursor} (child : d ∈ c.children) : d.parent? = some c := by
  obtain ⟨index, -, frames⟩ := mem_children.mp child
  simp only [parent?, frames]

theorem children_map_node (c : Cursor) : c.children.map node = c.node.children := by
  simp only [children, List.map_map]
  exact List.zipIdx_map_fst 0 c.node.children

theorem getElem?_children (c : Cursor) (index : Nat) : c.children[index]? = c.childAt? index := by
  simp only [children, childAt?, List.getElem?_map, List.getElem?_zipIdx, Option.map_map,
    Nat.zero_add]
  rfl

theorem children_map_path (c : Cursor) :
    c.children.map path = (List.range c.node.children.length).map (· :: c.path) := by
  simp only [children, List.map_map]
  have places : (fun x : Node × Nat => x.2 :: c.path) = (· :: c.path) ∘ Prod.snd := rfl
  change c.node.children.zipIdx.map (fun x => x.2 :: c.path) = _
  rw [places, ← List.map_map, List.zipIdx_map_snd, List.range_eq_range']

/-- No child stands twice among its siblings. -/
theorem children_path_nodup (c : Cursor) : (c.children.map path).Nodup := by
  rw [children_map_path]
  exact List.nodup_range.map fun i j same => (List.cons.inj same).1

end Cursor

theorem Node.cursorsBelow_eq (frames : List Frame) (parent : Node) (index : Nat) (cs : List Node) :
    Node.cursorsBelow frames parent index cs =
      (cs.zipIdx index).flatMap fun x => x.1.cursors (⟨parent, x.2⟩ :: frames) := by
  induction cs generalizing index with
  | nil => rfl
  | cons c cs ih => rw [Node.cursorsBelow, ih, List.zipIdx_cons, List.flatMap_cons]

namespace Cursor

theorem below_eq (c : Cursor) : c.below = c :: c.children.flatMap below := by
  obtain ⟨⟨kind, start, stop, cs⟩, frames⟩ := c
  simp only [below, Node.cursors, Node.cursorsBelow_eq, children, List.flatMap_map,
    Node.children_mk]

theorem reaches_of_mem_below {c d : Cursor} (member : d ∈ c.below) : c.Reaches d := by
  rw [below_eq] at member
  rcases List.mem_cons.mp member with rfl | member
  · exact .here
  · obtain ⟨e, child, lower⟩ := List.mem_flatMap.mp member
    have smaller := sizeOf_node_lt_of_mem child
    exact (Reaches.here.down child).trans (reaches_of_mem_below lower)
termination_by sizeOf c.node

theorem mem_below_self (c : Cursor) : c ∈ c.below := by
  rw [below_eq]
  exact List.mem_cons_self

theorem mem_below_of_mem_children {c d : Cursor} (child : d ∈ c.children) : d ∈ c.below := by
  rw [below_eq]
  exact List.mem_cons_of_mem _ (List.mem_flatMap.mpr ⟨d, child, mem_below_self d⟩)

theorem mem_below_trans {c d e : Cursor} (upper : d ∈ c.below) (lower : e ∈ d.below) :
    e ∈ c.below := by
  rw [below_eq c] at upper ⊢
  rcases List.mem_cons.mp upper with rfl | upper
  · rwa [below_eq d] at lower
  · obtain ⟨f, child, inside⟩ := List.mem_flatMap.mp upper
    have smaller := sizeOf_node_lt_of_mem child
    exact List.mem_cons_of_mem _
      (List.mem_flatMap.mpr ⟨f, child, mem_below_trans inside lower⟩)
termination_by sizeOf c.node

theorem mem_below_iff {c d : Cursor} : d ∈ c.below ↔ c.Reaches d := by
  constructor
  · exact reaches_of_mem_below
  · intro way
    induction way with
    | here => exact mem_below_self c
    | down _ child ih => exact mem_below_trans ih (mem_below_of_mem_children child)

/-- The way up from a place below `c` passes through `c`. -/
theorem Reaches.path_suffix {c d : Cursor} (way : c.Reaches d) : c.path <:+ d.path := by
  induction way with
  | here => exact List.suffix_rfl
  | down _ child ih =>
    obtain ⟨index, -, frames⟩ := mem_children.mp child
    refine ih.trans ?_
    rw [path, path, frames, List.map_cons]
    exact List.suffix_cons _ _

/-- Two children of one parent share no place below them. -/
theorem below_path_disjoint {c d e : Cursor} (left : d ∈ c.children) (right : e ∈ c.children)
    (apart : d.path ≠ e.path) : List.Disjoint (d.below.map path) (e.below.map path) := by
  intro p inLeft inRight
  obtain ⟨x, belowLeft, rfl⟩ := List.mem_map.mp inLeft
  obtain ⟨y, belowRight, same⟩ := List.mem_map.mp inRight
  have upLeft := (reaches_of_mem_below belowLeft).path_suffix
  have upRight := (reaches_of_mem_below belowRight).path_suffix
  rw [same] at upRight
  obtain ⟨i, -, leftFrames⟩ := mem_children.mp left
  obtain ⟨j, -, rightFrames⟩ := mem_children.mp right
  have level : d.path.length = e.path.length := by
    simp only [path, leftFrames, rightFrames, List.length_map, List.length_cons]
  have nested := List.suffix_of_suffix_length_le upLeft upRight (Nat.le_of_eq level)
  exact apart (nested.eq_of_length level)

/-- No place is listed twice. -/
theorem below_path_nodup (c : Cursor) : (c.below.map path).Nodup := by
  rw [below_eq, List.map_cons, List.nodup_cons, List.map_flatMap]
  constructor
  · intro member
    obtain ⟨d, child, inside⟩ := List.mem_flatMap.mp member
    obtain ⟨e, inside, same⟩ := List.mem_map.mp inside
    have up := (reaches_of_mem_below inside).path_suffix.length_le
    obtain ⟨index, -, frames⟩ := mem_children.mp child
    have longer : d.path.length = c.path.length + 1 := by
      simp only [path, frames, List.length_map, List.length_cons]
    rw [same] at up
    omega
  · rw [List.nodup_flatMap]
    constructor
    · intro d child
      have smaller := sizeOf_node_lt_of_mem child
      exact below_path_nodup d
    · have apart := children_path_nodup c
      rw [List.Nodup, List.pairwise_map] at apart
      exact apart.imp_of_mem fun left right different =>
        below_path_disjoint left right different
termination_by sizeOf c.node

theorem below_map_node (c : Cursor) : c.below.map node = c.node.preorder := by
  have inner : ∀ d ∈ c.children, d.below.map node = d.node.preorder := by
    intro d child
    have smaller := sizeOf_node_lt_of_mem child
    exact below_map_node d
  have lower : (c.children.flatMap below).map node = c.node.children.flatMap Node.preorder := by
    rw [List.map_flatMap, ← children_map_node, List.flatMap_map]
    exact List.flatMap_congr inner
  rw [below_eq, List.map_cons, lower, ← Node.preorderAll_eq_flatMap]
  cases c.node
  rfl
termination_by sizeOf c.node

/-- A place other than the root is a child of its parent. -/
theorem Reaches.mem_children_of_parent? {c d e : Cursor} (top : c.frames = [])
    (way : c.Reaches d) (up : d.parent? = some e) : d ∈ e.children ∧ c.Reaches e := by
  cases way with
  | here =>
    simp only [parent?, top] at up
    cases up
  | down upper child =>
    rw [parent?_of_mem_children child, Option.some.injEq] at up
    subst up
    exact ⟨child, upper⟩

/-- A place below a cursor is the cursor itself or at or below one of its children. -/
theorem Reaches.cases_child {c d : Cursor} (way : c.Reaches d) :
    d = c ∨ ∃ e ∈ c.children, e.Reaches d := by
  induction way with
  | here => exact .inl rfl
  | @down d e _ child ih =>
    rcases ih with rfl | ⟨f, top, way⟩
    · exact .inr ⟨e, child, .here⟩
    · exact .inr ⟨f, top, way.down child⟩

/-- No place is below two children of one parent. -/
theorem Reaches.child_unique {c d e f : Cursor} (left : d ∈ c.children) (right : e ∈ c.children)
    (fromLeft : d.Reaches f) (fromRight : e.Reaches f) : d = e := by
  have path : d.path = e.path := by
    by_contra apart
    have disjoint := below_path_disjoint left right apart
    exact disjoint (List.mem_map_of_mem (mem_below_iff.mpr fromLeft))
      (List.mem_map_of_mem (mem_below_iff.mpr fromRight))
  obtain ⟨i, leftNode, leftFrames⟩ := mem_children.mp left
  obtain ⟨j, rightNode, rightFrames⟩ := mem_children.mp right
  have index : i = j := by
    rw [Cursor.path, Cursor.path, leftFrames, rightFrames] at path
    exact (List.cons.inj path).1
  subst index
  have node : d.node = e.node := Option.some.inj (leftNode.symm.trans rightNode)
  have frames : d.frames = e.frames := leftFrames.trans rightFrames.symm
  cases d
  cases e
  simp_all

theorem ne_root_of_child {c d : Cursor} (child : d ∈ c.children) (root : Node) :
    d ≠ .ofRoot root := by
  rintro rfl
  obtain ⟨index, -, frames⟩ := mem_children.mp child
  cases frames

theorem Reaches.mem_preorder {c d : Cursor} (way : c.Reaches d) : d.node ∈ c.node.preorder := by
  rw [← below_map_node]
  exact List.mem_map_of_mem (mem_below_iff.mpr way)

theorem node_mem_children {c d : Cursor} (child : d ∈ c.children) : d.node ∈ c.node.children := by
  rw [← children_map_node]
  exact List.mem_map_of_mem child

end Cursor

namespace SyntaxTree

variable {t : SyntaxTree} {c d : Cursor}

theorem mem_cursors_iff : c ∈ t.cursors ↔ t.cursor.Reaches c := by
  change c ∈ t.cursor.below ↔ _
  exact Cursor.mem_below_iff

theorem parent_mem_cursors (place : c ∈ t.cursors) (up : c.parent? = some d) : d ∈ t.cursors :=
  mem_cursors_iff.mpr ((mem_cursors_iff.mp place).mem_children_of_parent? rfl up).2

/-- Parents and children know of each other. -/
theorem mem_children_iff (place : c ∈ t.cursors) : c ∈ d.children ↔ c.parent? = some d := by
  refine ⟨Cursor.parent?_of_mem_children, fun up => ?_⟩
  exact ((mem_cursors_iff.mp place).mem_children_of_parent? rfl up).1

end SyntaxTree

end MetricQuery
