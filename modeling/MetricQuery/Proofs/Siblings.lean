import MetricQuery.Proofs.Extent
import MetricQuery.Proofs.Lawful
import MetricQuery.Proofs.WellFormed
import Mathlib.Data.List.Pairwise
import Mathlib.Data.List.Sort

/-!
Siblings stand in the order of the source and do not overlap, with one exception: a list reaches
from its first item to its last, so it covers the errors that stand between its items, and these
are its siblings.
-/

set_option autoImplicit false

namespace MetricQuery

section Sorting

variable {α : Type} (le : α → α → Bool)

theorem insertBy_eq_orderedInsert (a : α) (bs : List α) :
    insertBy le a bs = bs.orderedInsert (fun a b => le a b = true) a := by
  induction bs with
  | nil => rfl
  | cons b bs ih => rw [insertBy, List.orderedInsert_cons, ih]

theorem stableSort_eq_insertionSort (as : List α) :
    stableSort le as = as.insertionSort fun a b => le a b = true := by
  induction as with
  | nil => rfl
  | cons a as ih =>
    rw [List.insertionSort_cons, ← ih, ← insertBy_eq_orderedInsert]
    rfl

end Sorting

namespace Parser

theorem sourceLe_iff {a b : Node} :
    sourceLe a b = true ↔ a.start < b.start ∨ a.start = b.start ∧ a.stop ≤ b.stop := by
  simp [sourceLe]

instance sourceLe_total : Std.Total fun a b : Node => sourceLe a b = true := by
  refine ⟨fun a b => ?_⟩
  rw [sourceLe_iff, sourceLe_iff]
  omega

instance sourceLe_trans : IsTrans Node fun a b => sourceLe a b = true := by
  refine ⟨fun a b c first next => ?_⟩
  rw [sourceLe_iff] at first next ⊢
  omega

theorem ordered_pairwise (ns : List Node) :
    (ordered ns).Pairwise fun a b => sourceLe a b = true := by
  rw [ordered, stableSort_eq_insertionSort]
  exact List.pairwise_insertionSort _ ns

end Parser

namespace Node

/-- A list covers an error beside it: the error stands between two of its items. -/
structure Overlays (parent : NodeKind) (list error : Node) : Prop where
  isList : ∃ item, ListRule parent list.kind item
  isError : error.kind = .error
  starts : list.start < error.start
  stops : error.stop ≤ list.stop

/-- One sibling comes before another: it ends before the other starts, or covers it as a list. -/
def Precedes (parent : NodeKind) (x y : Node) : Prop :=
  x.stop ≤ y.start ∨ Overlays parent x y

/-- The children of a node come one before another. -/
def Tidy (n : Node) : Prop := n.children.Pairwise (Precedes n.kind)

/-- Siblings that come one before the other do so in the order they are sorted into. -/
theorem Precedes.of_sourceLe {parent : NodeKind} {x y : Node} (sorted : Parser.sourceLe x y = true)
    (proper : y.start ≤ y.stop)
    (either : Precedes parent x y ∨ Precedes parent y x) : Precedes parent x y := by
  rw [Parser.sourceLe_iff] at sorted
  rcases either with right | wrong | overlay
  · exact right
  · left
    omega
  · have starts := overlay.starts
    omega

end Node

namespace Parser

/-- Parts of a list, side by side as they were read. -/
structure PartsLaid (parts : List Part) : Prop where
  proper : ∀ part ∈ parts, part.node.start ≤ part.node.stop
  apart : parts.Pairwise fun p q => p.node.stop ≤ q.node.start
  wide : ∀ part ∈ parts, part.node.kind ≠ .error → part.node.start < part.node.stop

theorem PartsLaid.of_laid {parts : List Part} {depth lower upper : Nat} {nested : Bool}
    (laid : Node.Laid lower upper ((parts.map (Part.grown depth nested)).map Prod.snd)) :
    PartsLaid parts := by
  have nodes : (parts.map (Part.grown depth nested)).map Prod.snd = parts.map Part.node := by
    simp only [List.map_map]
    exact List.map_congr_left fun part _ => Part.grown_snd depth nested part
  rw [nodes] at laid
  have apart := laid.apart
  rw [List.pairwise_map] at apart
  refine ⟨fun part member => ?_, apart, fun part member => ?_⟩
  · exact (laid.bounds _ (List.mem_map_of_mem member)).2.1
  · exact laid.wide _ (List.mem_map_of_mem member)

/-- Of two parts of a list one stands before the other. -/
theorem PartsLaid.either {parts : List Part} (laid : PartsLaid parts) {p q : Part}
    (first : p ∈ parts) (second : q ∈ parts) (different : p ≠ q) :
    p.node.stop ≤ q.node.start ∨ q.node.stop ≤ p.node.start := by
  let R := fun p q : Part => p.node.stop ≤ q.node.start ∨ q.node.stop ≤ p.node.start
  have symmetric : Std.Symm R := ⟨fun _ _ either => either.symm⟩
  have each : parts.Pairwise R := laid.apart.imp Or.inl
  exact each.forall first second different

theorem PartsLaid.items_apart {parts : List Part} (laid : PartsLaid parts) :
    (parts.filterMap Part.item?).Pairwise fun x y => x.stop ≤ y.start := by
  refine laid.apart.filterMap _ fun p q gap x first y second => ?_
  cases p <;> cases q <;> simp_all [Part.item?, Part.node]

theorem PartsLaid.strays_apart {parts : List Part} (laid : PartsLaid parts) :
    (parts.filterMap Part.stray?).Pairwise fun x y => x.stop ≤ y.start := by
  refine laid.apart.filterMap _ fun p q gap x first y second => ?_
  cases p <;> cases q <;> simp_all [Part.stray?, Part.node]

/-- A stray stands before the list of items, behind it, or is covered by it. -/
theorem PartsLaid.precedes {parts : List Part} (laid : PartsLaid parts) {depth : Nat}
    (whole : Part.Whole depth parts) {body list item : NodeKind} (rule : ListRule body list item)
    {n stray : Node} (isList : chain list (parts.filterMap Part.item?) = some n)
    (kind : n.kind = list) (isStray : .stray stray ∈ parts) (isError : stray.kind = .error) :
    Node.Precedes body n stray ∨ Node.Precedes body stray n := by
  have around := chain_encloses isList fun i member => laid.proper _ (mem_items.mp member)
  have side : ∀ i ∈ parts.filterMap Part.item?, i.stop ≤ stray.start ∨ stray.stop ≤ i.start :=
    fun i member => laid.either (mem_items.mp member) isStray (by simp)
  by_cases behind : ∀ i ∈ parts.filterMap Part.item?, i.stop ≤ stray.start
  · obtain ⟨last, isLast, stop⟩ := around.stop
    have gap := behind last isLast
    exact .inl (.inl (by omega))
  by_cases before : ∀ i ∈ parts.filterMap Part.item?, stray.stop ≤ i.start
  · obtain ⟨first, isFirst, start⟩ := around.start
    have gap := before first isFirst
    exact .inr (.inl (by omega))
  -- One item ends before the stray and another starts behind it, so none of them may be missing.
  simp only [not_forall, Nat.not_le] at behind before
  obtain ⟨late, isLate, notBehind⟩ := behind
  obtain ⟨early, isEarly, notBefore⟩ := before
  have afterEarly := (side early isEarly).resolve_right (by omega)
  have beforeLate := (side late isLate).resolve_left (by omega)
  have early_wide : early.start < early.stop := by
    rcases whole with present | ⟨-, single⟩
    · exact laid.wide _ (mem_items.mp isEarly) (present early (mem_items.mp isEarly))
    · have same : early = late := by
        match found : parts.filterMap Part.item?, single with
        | [], _ => simp [found] at isLate
        | [only], _ => simp_all
      subst same
      omega
  have early_inside := around.covers early isEarly
  have late_inside := around.covers late isLate
  have late_proper : late.start ≤ late.stop := laid.proper _ (mem_items.mp isLate)
  exact .inl (.inr ⟨⟨item, kind ▸ rule⟩, isError, by omega, by omega⟩)

/-- What stands between brackets is sorted so that siblings come one before another. -/
theorem listChildren_pairwise {parts : List Part} (laid : PartsLaid parts) {depth : Nat}
    (whole : Part.Whole depth parts) {body list item : NodeKind} (rule : ListRule body list item)
    (fits : ∀ part ∈ parts, part.Fits body list) :
    (listChildren list parts).Pairwise (Node.Precedes body) := by
  have mixed : ((chain list (parts.filterMap Part.item?)).toList ++
      parts.filterMap Part.stray?).Pairwise
        fun x y => Node.Precedes body x y ∨ Node.Precedes body y x := by
    refine List.pairwise_append.mpr ⟨?_, laid.strays_apart.imp fun gap => .inl (.inl gap), ?_⟩
    · cases chain list (parts.filterMap Part.item?) <;> simp
    · intro n isList stray isStray
      have member : .stray stray ∈ parts := mem_strays.mp isStray
      exact laid.precedes whole rule (Option.mem_toList.mp isList) (chain_kind list _ n isList)
        member (fits _ member)
  have unsorted := (stableSort_perm sourceLe _).symm.pairwise mixed Or.symm
  refine ((ordered_pairwise _).and unsorted).imp_of_mem fun first second both => ?_
  exact .of_sourceLe both.1 (listChildren_proper laid.proper _ second) both.2

/-- A nested list of items side by side is tidy all the way down. -/
theorem chain_tidy {list : NodeKind} {items : List Node} {n : Node}
    (found : chain list items = some n) (proper : ∀ item ∈ items, item.start ≤ item.stop)
    (apart : items.Pairwise fun x y => x.stop ≤ y.start)
    (each : ∀ item ∈ items, item.Everywhere Node.Tidy) : n.Everywhere Node.Tidy := by
  induction items using List.reverseRecOn generalizing n with
  | nil => cases found
  | append_singleton items item ih =>
    rw [chain_concat] at found
    obtain rfl := Option.some.inj found
    have earlier : ∀ i ∈ items, i.start ≤ i.stop := fun i member =>
      proper i (List.mem_append_left _ member)
    have gaps := List.pairwise_append.mp apart
    have last := each item (by simp)
    cases before : chain list items with
    | none => exact Node.everywhere_branch (List.pairwise_singleton _ _) (by simpa using last)
    | some inner =>
      have inside := ih before earlier gaps.1 fun i member => each i (List.mem_append_left _ member)
      obtain ⟨final, isFinal, stop⟩ := (chain_encloses before earlier).stop
      have gap := gaps.2.2 final isFinal item (by simp)
      have precedes : Node.Precedes list inner item := .inl (by omega)
      refine Node.everywhere_branch (by simpa [Node.Tidy] using precedes) ?_
      simpa using ⟨inside, last⟩

/-- Whatever is read from tokens in order is tidy. -/
theorem Reads.tidy {s after : Stream} {forest : List Grown} (read : Reads s forest after)
    (order : s.InOrder) : ∀ x ∈ forest, x.2.Everywhere Node.Tidy := by
  induction read with
  | done => simp
  | append first _ front back =>
    intro x member
    rcases List.mem_append.mp member with member | member
    · exact front order x member
    · exact back (first.inOrder order) x member
  | punctuation => simp
  | leaf | missing | swallow =>
    rintro x (_ | _)
    · exact Node.everywhere_leaf .nil
    · contradiction
  | @branch s after forest depth start stop kind inner rule edges levels binds made ih =>
    rintro x (_ | _)
    · refine Node.everywhere_branch ((inner.laid order).apart.imp .inl) fun c child => ?_
      obtain ⟨x, inside, rfl⟩ := List.mem_map.mp child
      exact ih order x inside
    · contradiction
  | @list s after parts depth body list inner fits known opens whole ih =>
    obtain ⟨item, rule⟩ := known
    have laid := PartsLaid.of_laid (inner.laid order)
    have each : ∀ part ∈ parts, part.node.Everywhere Node.Tidy := by
      intro part member
      have inside := ih order _ (List.mem_map.mpr ⟨part, member, rfl⟩)
      rwa [Part.grown_snd] at inside
    rintro x (_ | _)
    · refine Node.everywhere_branch (listChildren_pairwise laid whole rule fits) fun c child => ?_
      rcases mem_listChildren.mp child with isList | isStray
      · exact chain_tidy isList (fun i member => laid.proper _ (mem_items.mp member))
          laid.items_apart fun i member => each _ (mem_items.mp member)
      · exact each _ isStray
    · contradiction
  | @offsetBack s middle expr depth keyword sign length rest operand isExpr next _ _ _ ih =>
    have ordered := (operand.inOrder order).ordered
    rw [next] at ordered
    have keyword_wide := ordered.2.1
    have sign_start := ordered.2.2.1
    have before := (operand.laid order).bounds expr (by simp)
    rw [Stream.current_cons next] at before
    rintro x (_ | _)
    · refine Node.everywhere_branch ?_ ?_
      · simp only [Node.Tidy, Node.branch_children, Node.branch_kind, List.pairwise_cons,
          List.mem_cons, List.not_mem_nil, or_false, forall_eq_or_imp, forall_eq, false_implies,
          implies_true, List.Pairwise.nil, and_true]
        refine ⟨⟨.inl ?_, .inl ?_⟩, .inl ?_⟩ <;>
        · simp only [Node.leaf_start, Node.leaf_stop]
          omega
      · simp only [List.mem_cons, forall_eq_or_imp, List.not_mem_nil, false_implies, implies_true,
          and_true]
        exact ⟨ih order _ List.mem_cons_self, Node.everywhere_leaf .nil, Node.everywhere_leaf .nil⟩
    · contradiction

end Parser

/-- In the tree of a text siblings come one before another. -/
theorem SyntaxTree.parse_tidy (text : Text) : ∀ n ∈ (parse text).nodes, n.Tidy :=
  forall_nodes_parse text (fun _ _ _ read order _ => (read.laid order).apart.imp .inl)
    fun _ _ _ read order => read.tidy order

/-- The nodes between brackets, each with the list it may hold. -/
def bracketedLists : List (NodeKind × NodeKind) :=
  [(.functionCallBody, .functionCallArgs), (.groupingLabels, .groupingLabelList),
    (.labelMatchers, .labelMatchList)]

theorem ListRule.mem_bracketedLists {body list item : NodeKind}
    (rule : ListRule body list item) : (body, list) ∈ bracketedLists := by
  cases rule <;> simp [bracketedLists]

/-- In the tree of a text siblings start in the order of the source, and each ends before the next
starts, with one exception: an error beside a list between brackets may lie within the list. -/
theorem SyntaxTree.parse_siblings (text : Text) : ∀ n ∈ (parse text).nodes,
    n.children.Pairwise fun x y => x.start ≤ y.start ∧
      (x.stop ≤ y.start ∨ (n.kind, x.kind) ∈ bracketedLists ∧ y.kind = .error ∧
        x.start ≤ y.start ∧ y.stop ≤ x.stop) := by
  intro n member
  apply (parse_tidy text n member).imp_of_mem
  intro x y first _ precedes
  have inside : x ∈ (parse text).nodes := Node.mem_preorder_of_child member first
  have proper := ((parse_wellFormed text).ordered x inside).1
  rcases precedes with gap | overlay
  · exact ⟨Nat.le_trans proper gap, .inl gap⟩
  · obtain ⟨item, rule⟩ := overlay.isList
    have starts := Nat.le_of_lt overlay.starts
    exact ⟨starts, .inr ⟨rule.mem_bracketedLists, overlay.isError, starts, overlay.stops⟩⟩

theorem SyntaxTree.parse_siblings_stray :
    ∃ n ∈ (parse "sum(a b, c)".toList).nodes,
      n.children.map (fun c => (c.kind, c.start, c.stop)) =
        [(.functionCallArgs, 4, 10), (.error, 6, 7)] ∧
      n.children.Pairwise fun x y => x.start ≤ y.start ∧
        (x.stop ≤ y.start ∨ (n.kind, x.kind) ∈ bracketedLists ∧ y.kind = .error ∧
          x.start ≤ y.start ∧ y.stop ≤ x.stop) := by
  have present : ((parse "sum(a b, c)".toList).nodes.find? fun n =>
      n.children.map (fun c => (c.kind, c.start, c.stop)) =
        [(.functionCallArgs, 4, 10), (.error, 6, 7)]).isSome = true := by decide +kernel
  obtain ⟨n, found⟩ := Option.isSome_iff_exists.mp present
  have member := List.mem_of_find?_eq_some found
  have overlaid := List.find?_some found
  exact ⟨n, member, of_decide_eq_true overlaid, parse_siblings _ n member⟩

end MetricQuery
