import MetricQuery.Proofs.Shape
import MetricQuery.Proofs.Siblings

/-!
Where the parts of a bracketed list end up. They are sorted by their ranges, but the order is that
of reading: what was stray before the first item, the nested items, and everything stray after it.
-/

set_option autoImplicit false

namespace MetricQuery

/-- An element goes between those that come strictly before it and those it may precede. -/
theorem insertBy_append {α : Type} {le : α → α → Bool} {a : α} {before after : List α}
    (front : ∀ b ∈ before, le a b = false) (back : ∀ b ∈ after, le a b = true) :
    insertBy le a (before ++ after) = before ++ a :: after := by
  induction before with
  | nil =>
    cases after with
    | nil => rfl
    | cons b bs =>
      rw [List.nil_append, insertBy, if_pos (back b List.mem_cons_self)]
      rfl
  | cons b bs ih =>
    have later := front b List.mem_cons_self
    rw [List.cons_append, insertBy, if_neg (by simp [later]),
      ih fun c member => front c (List.mem_cons_of_mem b member), List.cons_append]

namespace Parser

theorem ordered_eq_self {ns : List Node} (sorted : ns.Pairwise fun a b => sourceLe a b = true) :
    ordered ns = ns := by
  rw [ordered, stableSort_eq_insertionSort]
  exact sorted.insertionSort_eq

/-- Whether a part is stray. -/
def Part.isStray : Part → Bool
  | .item _ => false
  | .stray _ => true

/-- The children of a bracketed list in the order in which they were read, the nested items at the
place of the first. -/
def arrange (list : NodeKind) (parts : List Part) : List Node :=
  (parts.takeWhile Part.isStray).filterMap Part.stray? ++
    (chain list (parts.filterMap Part.item?)).toList ++
      (parts.dropWhile Part.isStray).filterMap Part.stray?

/-- Parts in front of the first item are no items. -/
theorem not_item_mem_takeWhile {parts : List Part} {n : Node} :
    .item n ∉ parts.takeWhile Part.isStray := fun member =>
  absurd (List.all_eq_true.mp List.all_takeWhile _ member) nofun

theorem PartsLaid.strays_sorted {parts : List Part} (laid : PartsLaid parts) :
    (parts.filterMap Part.stray?).Pairwise fun a b => sourceLe a b = true := by
  refine laid.strays_apart.imp_of_mem fun {x y} first second gap => ?_
  have proper : x.start ≤ x.stop := laid.proper _ (mem_strays.mp first)
  have proper' : y.start ≤ y.stop := laid.proper _ (mem_strays.mp second)
  rw [sourceLe_iff]
  omega

/-- What is stray before the first item comes before the nested items. -/
theorem PartsLaid.stray_before {parts : List Part} (laid : PartsLaid parts)
    {list : NodeKind} {n stray : Node} (found : chain list (parts.filterMap Part.item?) = some n)
    (wide : ∀ i, .item i ∈ parts → i.start < i.stop)
    (early : .stray stray ∈ parts.takeWhile Part.isStray) : sourceLe n stray = false := by
  have around := chain_encloses found fun i member => laid.proper _ (mem_items.mp member)
  obtain ⟨first, isFirst, start⟩ := around.start
  have isItem := mem_items.mp isFirst
  have covered := around.covers first isFirst
  have behind : .item first ∈ parts.dropWhile Part.isStray := by
    rw [← List.takeWhile_append_dropWhile (p := Part.isStray) (l := parts)] at isItem
    exact (List.mem_append.mp isItem).resolve_left not_item_mem_takeWhile
  have gap : stray.stop ≤ first.start := by
    have apart := laid.apart
    rw [← List.takeWhile_append_dropWhile (p := Part.isStray) (l := parts)] at apart
    exact (List.pairwise_append.mp apart).2.2 _ early _ behind
  have proper : stray.start ≤ stray.stop := laid.proper _ (List.takeWhile_subset _ early)
  have own := wide first isItem
  rw [← Bool.not_eq_true, sourceLe_iff]
  omega

/-- What is stray after the first item comes behind the start of the nested items. -/
theorem PartsLaid.stray_after {parts : List Part} (laid : PartsLaid parts)
    {list : NodeKind} {n stray : Node} (found : chain list (parts.filterMap Part.item?) = some n)
    (wide : ∀ i, .item i ∈ parts → i.start < i.stop)
    (late : .stray stray ∈ parts.dropWhile Part.isStray) : sourceLe n stray = true := by
  have around := chain_encloses found fun i member => laid.proper _ (mem_items.mp member)
  have apart := laid.apart.sublist (List.dropWhile_sublist Part.isStray)
  have some := List.head?_dropWhile_not Part.isStray parts
  have inside : ∀ p ∈ parts.dropWhile Part.isStray, p ∈ parts := fun p member =>
    (List.dropWhile_sublist _).subset member
  generalize parts.dropWhile Part.isStray = rest at late apart some inside
  cases rest with
  | nil => cases late
  | cons p rest =>
    cases p with
    | stray => simp [Part.isStray] at some
    | item first =>
      have isItem := inside _ List.mem_cons_self
      have gap := (List.pairwise_cons.mp apart).1 (.stray stray) (by simpa using late)
      have covered := around.covers first (mem_items.mpr isItem)
      have own := wide first isItem
      simp only [Part.node] at gap
      rw [sourceLe_iff]
      omega

/-- Sorting the children of a bracketed list leaves them in the order of reading. -/
theorem listChildren_eq_arrange {parts : List Part} (laid : PartsLaid parts)
    (wide : ∀ i, .item i ∈ parts → i.start < i.stop) (list : NodeKind) :
    listChildren list parts = arrange list parts := by
  have halves : parts.filterMap Part.stray? =
      (parts.takeWhile Part.isStray).filterMap Part.stray? ++
        (parts.dropWhile Part.isStray).filterMap Part.stray? := by
    rw [← List.filterMap_append, List.takeWhile_append_dropWhile]
  rw [listChildren, arrange]
  cases found : chain list (parts.filterMap Part.item?) with
  | none =>
    rw [Option.toList_none, List.nil_append, List.append_nil, ← halves]
    exact ordered_eq_self laid.strays_sorted
  | some n =>
    have sorted : ordered (n :: parts.filterMap Part.stray?) =
        insertBy sourceLe n (ordered (parts.filterMap Part.stray?)) := rfl
    rw [Option.toList_some, List.singleton_append, sorted, ordered_eq_self laid.strays_sorted,
      halves, List.append_assoc, List.singleton_append]
    refine insertBy_append (fun stray member => ?_) fun stray member => ?_
    · exact laid.stray_before found wide (mem_strays.mp member)
    · exact laid.stray_after found wide (mem_strays.mp member)

/-- A part without its range: whether it is stray, and the shape of its node. -/
def Part.shape (part : Part) : Bool × Shape := (part.isStray, part.node.shape)

theorem items_shape (parts : List Part) :
    (parts.filterMap Part.item?).map Node.shape =
      ((parts.map Part.shape).filter fun x => !x.1).map Prod.snd := by
  induction parts with
  | nil => rfl
  | cons part parts ih =>
    cases part with
    | item node => exact congrArg (node.shape :: ·) ih
    | stray => exact ih

theorem strays_shape (parts : List Part) :
    (parts.filterMap Part.stray?).map Node.shape =
      ((parts.map Part.shape).filter Prod.fst).map Prod.snd := by
  induction parts with
  | nil => rfl
  | cons part parts ih =>
    cases part with
    | item => exact ih
    | stray node => exact congrArg (node.shape :: ·) ih

/-- How parts are arranged depends on their shapes only. -/
theorem arrange_shape {parts parts' : List Part}
    (same : parts.map Part.shape = parts'.map Part.shape) (list : NodeKind) :
    (arrange list parts).map Node.shape = (arrange list parts').map Node.shape := by
  have early : ∀ ps : List Part,
      (ps.takeWhile Part.isStray).map Part.shape = (ps.map Part.shape).takeWhile Prod.fst := by
    intro ps
    rw [List.takeWhile_map]
    rfl
  have late : ∀ ps : List Part,
      (ps.dropWhile Part.isStray).map Part.shape = (ps.map Part.shape).dropWhile Prod.fst := by
    intro ps
    rw [List.dropWhile_map]
    rfl
  have nested : ∀ ps : List Part, (chain list (ps.filterMap Part.item?)).toList.map Node.shape =
      (Shape.chain list (((ps.map Part.shape).filter fun x => !x.1).map Prod.snd)).toList := by
    intro ps
    rw [← items_shape, ← chain_shape, Option.toList_map]
  rw [arrange, arrange]
  simp only [List.map_append, strays_shape, nested, early, late, same]

end Parser

end MetricQuery
