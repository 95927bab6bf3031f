import MetricQuery.Proofs.Siblings
import MetricQuery.Proofs.WellFormed

/-!
What a position resolves to. The way down takes the first child that covers the position and never
turns back. So it ends at the innermost node wherever siblings do not overlap, and where they do,
an error and whatever is below it are passed by for the list that covers them.
-/

set_option autoImplicit false

namespace MetricQuery

namespace Side

/-- A node covers what a node inside it covers. -/
theorem covers_of_inside {side : Side} {pos : Nat} {outer inner : Node}
    (starts : outer.start ≤ inner.start) (stops : inner.stop ≤ outer.stop)
    (covers : side.covers pos inner = true) : side.covers pos outer = true := by
  cases side <;> simp only [Side.covers, Bool.and_eq_true, decide_eq_true_eq] at covers ⊢ <;> omega

/-- Nodes one behind the other never cover the same position on the same side. -/
theorem not_covers_of_behind {side : Side} {pos : Nat} {x y : Node} (behind : x.stop ≤ y.start)
    (covers : side.covers pos x = true) : side.covers pos y = false := by
  cases side <;> simp only [Side.covers, Bool.and_eq_true, decide_eq_true_eq,
    Bool.and_eq_false_iff, decide_eq_false_iff_not] at covers ⊢ <;> omega

end Side

namespace Cursor

variable (covers : Node → Bool)

/-- Where the way down from a cursor ends. -/
def descend (c : Cursor) : Cursor := c.node.descend covers c.frames

theorem descendInto_eq (frames : List Frame) (parent : Node) (index : Nat) (cs : List Node) :
    Node.descendInto covers frames parent index cs =
      match ((cs.zipIdx index).map fun x => Cursor.mk x.1 (⟨parent, x.2⟩ :: frames)).find?
        (fun d => covers d.node) with
      | none => ⟨parent, frames⟩
      | some d => d.descend covers := by
  induction cs generalizing index with
  | nil => rfl
  | cons c cs ih =>
    rw [Node.descendInto, List.zipIdx_cons, List.map_cons, List.find?_cons]
    cases covers c with
    | true => rfl
    | false => exact ih (index + 1)

/-- The way down goes on from the first child that covers, if there is one. -/
theorem descend_eq (c : Cursor) :
    c.descend covers = match c.children.find? (fun d => covers d.node) with
      | none => c
      | some d => d.descend covers := by
  obtain ⟨⟨kind, start, stop, cs⟩, frames⟩ := c
  exact descendInto_eq covers frames _ 0 cs

/-- The way down ends where it started or at a node that covers. -/
theorem descend_covers (c : Cursor) :
    c.descend covers = c ∨ covers (c.descend covers).node = true := by
  rw [descend_eq]
  cases first : c.children.find? fun d => covers d.node with
  | none => exact .inl rfl
  | some d =>
    right
    have smaller := sizeOf_node_lt_of_mem (List.mem_of_find?_eq_some first)
    rcases descend_covers d with stays | deeper
    · change covers (d.descend covers).node = true
      rw [stays]
      simpa using List.find?_some first
    · exact deeper
termination_by sizeOf c.node

theorem reaches_descend (c : Cursor) : c.Reaches (c.descend covers) := by
  rw [descend_eq]
  cases first : c.children.find? fun d => covers d.node with
  | none => exact .here
  | some d =>
    have child := List.mem_of_find?_eq_some first
    have smaller := sizeOf_node_lt_of_mem child
    exact (Reaches.here.down child).trans (reaches_descend d)
termination_by sizeOf c.node

/-- Somewhere below a cursor an error stands between the items of the list beside it. -/
def Overlaid (root list error : Cursor) : Prop :=
  ∃ parent, root.Reaches parent ∧ list ∈ parent.children ∧ error ∈ parent.children ∧
    Node.Overlays parent.kind list.node error.node

theorem Overlaid.mono {c d list error : Cursor} (way : c.Reaches d)
    (overlay : d.Overlaid list error) : c.Overlaid list error := by
  obtain ⟨parent, lower, rest⟩ := overlay
  exact ⟨parent, way.trans lower, rest⟩

end Cursor

/-- A node covers its children. -/
def Node.Nests (n : Node) : Prop := ∀ c ∈ n.children, n.start ≤ c.start ∧ c.stop ≤ n.stop

namespace Cursor

variable {side : Side} {pos : Nat}

/-- The first child that covers a position is the only one, unless it is a list over an error. -/
theorem covering_child {c d e : Cursor} (tidy : c.node.Tidy)
    (first : c.children.find? (fun d => side.covers pos d.node) = some d) (child : e ∈ c.children)
    (covered : side.covers pos e.node = true) : e = d ∨ c.Overlaid d e := by
  have pairs : c.children.Pairwise fun x y => Node.Precedes c.kind x.node y.node := by
    rw [← List.pairwise_map, children_map_node]
    exact tidy
  obtain ⟨covers, front, back, split, passed⟩ := List.find?_eq_some_iff_append.mp first
  rw [split] at pairs child
  rcases List.mem_append.mp child with early | late
  · have skipped := passed e early
    simp [covered] at skipped
  rcases List.mem_cons.mp late with same | behind
  · exact .inl same
  right
  have ordered := (List.pairwise_cons.mp (List.pairwise_append.mp pairs).2.1).1 e behind
  rcases ordered with gap | overlay
  · rw [Side.not_covers_of_behind gap covers] at covered
    cases covered
  · exact ⟨c, .here, List.mem_of_find?_eq_some first, by rw [split]; exact child, overlay⟩

/-- Ranges nest, so what covers a position has only ancestors that do. -/
theorem Reaches.covers {c d : Cursor} (nested : c.node.Everywhere Node.Nests) (way : c.Reaches d)
    (covered : side.covers pos d.node = true) : side.covers pos c.node = true := by
  induction way with
  | here => exact covered
  | @down d e upper child ih =>
    obtain ⟨starts, stops⟩ := nested d.node upper.mem_preorder e.node (node_mem_children child)
    exact ih (Side.covers_of_inside starts stops covered)

/-- Whatever covers a position below a cursor is on the way down, or was passed by for a list. -/
theorem descend_innermost {c d : Cursor} (tidy : c.node.Everywhere Node.Tidy)
    (nested : c.node.Everywhere Node.Nests) (way : c.Reaches d) (below : d ≠ c)
    (covered : side.covers pos d.node = true) :
    d.Reaches (c.descend (side.covers pos)) ∨
      ∃ list error, c.Overlaid list error ∧ error.Reaches d ∧
        list.Reaches (c.descend (side.covers pos)) := by
  obtain ⟨e, child, lower⟩ := way.cases_child.resolve_left below
  have inside := node_mem_children child
  have onTop := lower.covers (nested.child inside) covered
  obtain ⟨f, first⟩ := Option.isSome_iff_exists.mp
    (List.find?_isSome.mpr ⟨e, child, onTop⟩ :
      (c.children.find? fun d => side.covers pos d.node).isSome = true)
  have step : c.descend (side.covers pos) = f.descend (side.covers pos) := by
    rw [descend_eq, first]
  rw [step]
  rcases covering_child tidy.top first child onTop with rfl | overlay
  · by_cases same : d = e
    · subst same
      exact .inl (reaches_descend _ d)
    · have smaller := sizeOf_node_lt_of_mem child
      rcases descend_innermost (tidy.child inside) (nested.child inside) lower same covered with
        reached | ⟨list, error, overlay, rest⟩
      · exact .inl reached
      · exact .inr ⟨list, error, overlay.mono (.down .here child), rest⟩
  · exact .inr ⟨f, e, overlay, lower, reaches_descend _ f⟩
termination_by sizeOf c.node

end Cursor

namespace SyntaxTree

theorem parse_nests (text : Text) : (parse text).root.Everywhere Node.Nests :=
  (parse_wellFormed text).nested

/-- Every node but the root that covers a position is the resolved node or stands around it exactly
where no error that covers the position stands between the items of a list. Where one does, the
list leads to the resolved node instead; and where nothing covers the position, it is the root. -/
theorem resolve_innermost_iff (text : Text) (pos : Nat) (side : Side) :
    let t := parse text
    let found := t.resolve pos side
    ((∀ c ∈ t.cursors, c ≠ t.cursor → side.covers pos c.node = true → c.Reaches found) ↔
      ∀ list error, t.cursor.Overlaid list error → side.covers pos error.node = false) ∧
    (∀ c ∈ t.cursors, c ≠ t.cursor → side.covers pos c.node = true → c.Reaches found ∨
      ∃ list error, t.cursor.Overlaid list error ∧ error.Reaches c ∧ list.Reaches found) ∧
    ((∀ c ∈ t.cursors, c ≠ t.cursor → side.covers pos c.node = false) → found = t.cursor) := by
  intro t found
  have tidy : t.cursor.node.Everywhere Node.Tidy := parse_tidy text
  have nested : t.cursor.node.Everywhere Node.Nests := parse_nests text
  have either : ∀ c ∈ t.cursors, c ≠ t.cursor → side.covers pos c.node = true → c.Reaches found ∨
      ∃ list error, t.cursor.Overlaid list error ∧ error.Reaches c ∧ list.Reaches found := by
    intro c place below covered
    exact Cursor.descend_innermost tidy nested (mem_cursors_iff.mp place) below covered
  refine ⟨⟨?_, ?_⟩, either, ?_⟩
  · rintro innermost list error ⟨parent, way, left, right, overlay⟩
    by_contra covered
    rw [Bool.not_eq_false] at covered
    have around : side.covers pos list.node = true :=
      Side.covers_of_inside (Nat.le_of_lt overlay.starts) overlay.stops covered
    have toList := innermost list (mem_cursors_iff.mpr (way.down left))
      (Cursor.ne_root_of_child left _) around
    have toError := innermost error (mem_cursors_iff.mpr (way.down right))
      (Cursor.ne_root_of_child right _) covered
    have same : list = error := Cursor.Reaches.child_unique left right toList toError
    have starts := overlay.starts
    rw [same] at starts
    exact Nat.lt_irrefl _ starts
  · intro clear c place below covered
    rcases either c place below covered with reached | ⟨list, error, overlay, above, -⟩
    · exact reached
    · have passed := clear list error overlay
      obtain ⟨parent, way, -, right, -⟩ := overlay
      have inside := nested.below (way.down right).mem_preorder
      rw [above.covers inside covered] at passed
      cases passed
  · intro bare
    rcases Cursor.descend_covers (side.covers pos) t.cursor with same | covered
    · exact same
    · by_contra below
      have place := mem_cursors_iff.mpr (Cursor.reaches_descend (side.covers pos) t.cursor)
      rw [bare _ place below] at covered
      cases covered

/-- A stray name between two arguments covers the position behind it, but the position resolves to
the list of arguments around it. -/
theorem resolve_passes_stray :
    ∃ c ∈ (parse "sum(a b, c)".toList).cursors, c ≠ (parse "sum(a b, c)".toList).cursor ∧
      Side.before.covers 7 c.node = true ∧
      ¬ c.Reaches ((parse "sum(a b, c)".toList).resolve 7 .before) := by
  let found := (parse "sum(a b, c)".toList).resolve 7 .before
  have passed : ((parse "sum(a b, c)".toList).cursors.find? fun c =>
      !c.path.isEmpty && (Side.before.covers 7 c.node && !c.path.isSuffixOf found.path)).isSome =
        true := by decide +kernel
  obtain ⟨c, first⟩ := Option.isSome_iff_exists.mp passed
  have facts := List.find?_some first
  simp only [Bool.and_eq_true, Bool.not_eq_true'] at facts
  refine ⟨c, List.mem_of_find?_eq_some first, ?_, facts.2.1, fun way => ?_⟩
  · rintro rfl
    cases facts.1
  · have suffix := List.isSuffixOf_iff_suffix.mpr way.path_suffix
    rw [facts.2.2] at suffix
    cases suffix

end SyntaxTree

end MetricQuery
