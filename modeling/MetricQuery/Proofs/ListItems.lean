import MetricQuery.Proofs.CheckReach
import MetricQuery.Proofs.EditRange
import MetricQuery.Proofs.Origin
import MetricQuery.Proofs.Siblings

/-!
The items of the lists between brackets. A list node is only found in the next one of its chain or
right between the brackets, so the items that a chain gives are the nodes of their kind below a list
for which these brackets are the nearest. They come one after another, and none of them is empty.
-/

set_option autoImplicit false

namespace MetricQuery

theorem GroupRule.collection_child {kinds : List NodeKind} (rule : GroupRule kinds) :
    ∀ c ∈ kinds, c.isCollection = true → c.isBody = true := by
  cases rule with
  | absent => simp
  | bare keyword => rcases keyword with rfl | rfl <;> simp [NodeKind.isCollection]
  | labels keyword =>
    rcases keyword with rfl | rfl <;> simp [NodeKind.isCollection, NodeKind.isBody]

theorem MatchingRule.collection_child {kinds : List NodeKind} (rule : MatchingRule kinds) :
    ∀ c ∈ kinds, c.isCollection = true → c.isBody = true := by
  cases rule with
  | absent => simp
  | clause keywords list rest =>
    have group := rest.collection_child
    rcases keywords with rfl | rfl <;> rcases list with rfl | rfl <;>
      simpa [NodeKind.isCollection, NodeKind.isBody] using group

/-- A collection stands in brackets of its own, in a longer list or right between its brackets. -/
theorem Rule.collection_child {k : NodeKind} {kinds : List NodeKind} (rule : Rule k kinds) :
    ∀ c ∈ kinds, c.isCollection = true → c.isBody = true ∨ c = k ∨ ∃ item, ListRule k c item := by
  have errors : ∀ tail : List NodeKind, (∀ c ∈ tail, c = .error) →
      ∀ c ∈ tail, c.isCollection = false := by
    intro tail all c member
    rw [all c member]
    rfl
  cases rule with
  | query tail =>
    intro c member collects
    rw [errors _ tail c member] at collects
    cases collects
  | queryExpr tail =>
    intro c member collects
    rcases List.mem_cons.mp member with rfl | later
    · cases collects
    · rw [errors _ tail c later] at collects
      cases collects
  | parenExpr operand tail =>
    intro c member collects
    rcases List.mem_cons.mp member with rfl | later
    · rcases operand with rfl | rfl <;> cases collects
    · rw [errors _ tail c later] at collects
      cases collects
  | @expr form isForm =>
    cases form <;> first | cases isForm; done | simp [NodeKind.isCollection]
  | aggregateExpr list early late =>
    rcases list with rfl | rfl <;> rcases early with rfl | rfl <;>
      rcases late with rfl | rfl | ⟨-, rfl⟩ <;> simp [NodeKind.isCollection, NodeKind.isBody]
  | aggregateModifier keywords list =>
    rcases keywords with rfl | rfl <;> rcases list with rfl | rfl <;>
      simp [NodeKind.isCollection, NodeKind.isBody]
  | binaryExpr op optional operand =>
    rcases optional with rfl | rfl <;> rcases operand with rfl | rfl <;>
      simp [NodeKind.isCollection]
  | binModifiers flag clause both =>
    subst both
    intro c member collects
    left
    rcases List.mem_append.mp member with bool | matching
    · rcases flag with rfl | rfl
      · cases bool
      · rw [List.mem_singleton.mp bool] at collects
        cases collects
    · exact clause.collection_child c matching collects
  | functionIdentifier known =>
    rcases known with rfl | ⟨f, rfl⟩ <;> simp [NodeKind.isCollection]
  | offsetExpr duration | matrixSelector duration =>
    rcases duration with rfl | rfl <;> simp [NodeKind.isCollection]
  | subqueryExpr duration optional =>
    rcases duration with rfl | rfl <;> rcases optional with rfl | rfl | rfl <;>
      simp [NodeKind.isCollection]
  | unaryExpr operand => rcases operand with rfl | rfl <;> simp [NodeKind.isCollection]
  | vectorSelector some_part =>
    rcases some_part with rfl | rfl | rfl <;> simp [NodeKind.isCollection, NodeKind.isBody]
  | labelMatcher comparison =>
    rcases comparison with rfl | rfl | rfl | rfl <;> simp [NodeKind.isCollection]
  | aggregateOp | groupingLabel | functionCall | metricIdentifier | matchOp | error =>
    simp [NodeKind.isCollection, NodeKind.isBody]
  | listStart own =>
    cases own with
    | arguments operand => rcases operand with rfl | rfl <;> simp [NodeKind.isCollection]
    | _ => simp [NodeKind.isCollection]
  | listMore own =>
    cases own with
    | arguments operand => rcases operand with rfl | rfl <;> simp [NodeKind.isCollection]
    | _ => simp [NodeKind.isCollection]
  | body own known =>
    intro c member collects
    rcases known c member with rfl | rfl
    · exact .inr (.inr ⟨_, own⟩)
    · cases collects

namespace ListRule

variable {body list item : NodeKind}

/-- A list stands in a longer list or right between its brackets. -/
theorem holder (rule : ListRule body list item) {k : NodeKind} {kinds : List NodeKind}
    (made : Rule k kinds) (inside : list ∈ kinds) : k = list ∨ k = body := by
  have collects : list.isCollection = true := by cases rule <;> rfl
  rcases made.collection_child list inside collects with isBody | same | ⟨last, own⟩
  · cases rule <;> cases isBody
  · exact .inl same.symm
  · right
    cases rule <;> cases own <;> rfl

theorem collects (rule : ListRule body list item) :
    body.isCollection = true ∧ item.isCollection = false := by
  cases rule with
  | arguments operand => rcases operand with rfl | rfl <;> exact ⟨rfl, rfl⟩
  | labels => exact ⟨rfl, rfl⟩
  | matchers => exact ⟨rfl, rfl⟩

end ListRule

namespace Cursor

variable {c d : Cursor} {kind : NodeKind}

theorem enclosing?_self (isKind : c.kind = kind) : c.enclosing? kind = some c := by
  obtain ⟨node, frames⟩ := c
  cases frames <;> simp_all [enclosing?, enclosing?.go, Cursor.kind]

/-- What encloses a node of another kind encloses its parent. -/
theorem enclosing?_child (child : c ∈ d.children) (other : c.kind ≠ kind) :
    c.enclosing? kind = d.enclosing? kind := by
  obtain ⟨index, -, frames⟩ := mem_children.mp child
  obtain ⟨node, above⟩ := c
  simp only at frames
  subst frames
  simp only [Cursor.kind] at other
  simp only [enclosing?, enclosing?.go, other, ↓reduceIte]

theorem child?_map_node (c : Cursor) (kind : NodeKind) :
    (c.child? kind).map node = c.node.child? kind := by
  rw [child?, Node.child?, ← children_map_node, List.find?_map]
  rfl

theorem last?_map_node (c : Cursor) : c.last?.map node = c.node.last? := by
  rw [last?, Node.last?, ← children_map_node, List.getLast?_map]

/-- Where there is one child of a kind at most, looking for the kind finds it. -/
theorem child?_of_count (once : (d.node.children.map Node.kind).count kind ≤ 1)
    (child : c ∈ d.children) (isKind : c.kind = kind) : d.child? kind = some c := by
  refine find?_of_count ?_ child isKind
  rwa [← children_map_node, List.map_map] at once

theorem items_eq (list item : NodeKind) (c : Cursor) :
    c.items list item = ((c.child? list).map (items list item)).getD [] ++
      (c.last?.filter (·.kind == item)).toList := by
  rw [items]
  split
  · rename_i inner found
    rw [found]
    rfl
  · rename_i found
    rw [found]
    rfl

/-- Flattening a list from a cursor and from its node comes to the same. -/
theorem items_map_node (list item : NodeKind) (c : Cursor) :
    (c.items list item).map node = c.node.items list item := by
  have own : (c.last?.filter (·.kind == item)).toList.map node =
      (c.node.last?.filter (·.kind == item)).toList := by
    rw [← last?_map_node]
    cases c.last? with
    | none => rfl
    | some d =>
      cases same : d.kind == item with
      | true => simp_all [Option.filter, Cursor.kind]
      | false => simp_all [Option.filter, Cursor.kind]
  rw [items_eq, Node.items_eq, List.map_append, own, ← child?_map_node]
  cases found : c.child? list with
  | none => rfl
  | some inner =>
    have smaller := sizeOf_node_lt_of_mem (List.mem_of_find?_eq_some found)
    simp [items_map_node list item inner]
termination_by sizeOf c.node

end Cursor

namespace SyntaxTree

theorem mem_cursors_of_child {t : SyntaxTree} {c d : Cursor} (place : d ∈ t.cursors)
    (child : c ∈ d.children) : c ∈ t.cursors :=
  mem_cursors_iff.mpr ((mem_cursors_iff.mp place).down child)

theorem rule_of_child {text : Text} {c d : Cursor} (place : d ∈ (parse text).cursors)
    (child : c ∈ d.children) :
    Rule d.kind (d.node.children.map Node.kind) ∧ c.kind ∈ d.node.children.map Node.kind := by
  have inside := Cursor.node_mem_children child
  refine ⟨?_, List.mem_map_of_mem inside⟩
  rcases (parse_lawful text d.node (node_mem_nodes place)).rule with ⟨none, -⟩ | made
  · rw [none] at inside
    cases inside
  · exact made

section Chains

variable {text : Text} {body list item : NodeKind} (rule : ListRule body list item)

include rule

/-- Every item along a chain belongs to the brackets around the chain. -/
theorem items_within {b c d : Cursor} (place : d ∈ (parse text).cursors) (isList : d.kind = list)
    (around : d.enclosing? body = some b) (member : c ∈ d.items list item) :
    c ∈ (parse text).cursors ∧ c.kind = item ∧ c.parentKind? = some list ∧
      c.enclosing? body = some b := by
  rw [Cursor.items_eq, List.mem_append] at member
  rcases member with earlier | last
  · cases found : d.child? list with
    | none => simp [found] at earlier
    | some inner =>
      have child := List.mem_of_find?_eq_some found
      have isInner : inner.kind = list := by simpa using List.find?_some found
      have smaller := Cursor.sizeOf_node_lt_of_mem child
      have lower := mem_cursors_of_child place child
      have same : inner.enclosing? body = some b := by
        rw [Cursor.enclosing?_child child (isInner ▸ rule.ne_body.2), around]
      exact items_within lower isInner same (by simpa [found] using earlier)
  · obtain ⟨isLast, isItem⟩ := Option.filter_eq_some_iff.mp (Option.mem_toList.mp last)
    have child : c ∈ d.children := List.mem_of_getLast? isLast
    have kind : c.kind = item := by simpa using isItem
    refine ⟨mem_cursors_of_child place child, kind, ?_, ?_⟩
    · rw [Cursor.parentKind?, Cursor.parent?_of_mem_children child, Option.map_some, isList]
    · rw [Cursor.enclosing?_child child (kind ▸ rule.ne_body.1), around]
termination_by sizeOf d.node

/-- A list stands between brackets of its own, and what is flattened from it is flattened from all
that they hold. -/
theorem exists_body {d : Cursor} (place : d ∈ (parse text).cursors) (isList : d.kind = list) :
    ∃ b ∈ (parse text).cursors, b.kind = body ∧ b.Reaches d ∧ d.enclosing? body = some b ∧
      ∀ c ∈ d.items list item, c ∈ b.items list item := by
  have way := mem_cursors_iff.mp place
  clear place
  induction way with
  | here =>
    have root : (parse text).cursor.kind = .query := (parse_wellFormed text).root_kind
    rw [root] at isList
    subst isList
    cases rule
  | @down e d upper child ih =>
    have place := mem_cursors_iff.mpr upper
    obtain ⟨made, inside⟩ := rule_of_child place child
    have around := Cursor.enclosing?_child child (isList ▸ rule.ne_body.2)
    have holder := rule.holder made (isList ▸ inside)
    have once : (e.node.children.map Node.kind).count list ≤ 1 := by
      rcases holder with same | same
      · rw [same] at made
        obtain ⟨last, own, alone | more⟩ := rule.of_list made
        · simp [alone, own.ne_list]
        · simp [more, own.ne_list]
      · rw [same] at made
        exact (rule.of_body made).2
    have step : ∀ c ∈ d.items list item, c ∈ e.items list item := by
      intro c member
      rw [Cursor.items_eq list item e, Cursor.child?_of_count once child isList]
      exact List.mem_append_left _ member
    rcases holder with same | same
    · obtain ⟨b, within, isBody, reaches, nearest, part⟩ := ih same
      exact ⟨b, within, isBody, reaches.down child, around.trans nearest,
        fun c member => part c (step c member)⟩
    · exact ⟨e, place, same, Cursor.Reaches.here.down child,
        around.trans (Cursor.enclosing?_self same), step⟩

/-- Nothing but the chain between brackets has items. -/
theorem items_of_body (present : item ≠ .error) {b : Cursor} (place : b ∈ (parse text).cursors)
    (isBody : b.kind = body) :
    b.items list item = ((b.child? list).map (Cursor.items list item)).getD [] := by
  have made := (parse_lawful text b.node (node_mem_nodes place)).rule_of_inner
    (by rw [← Cursor.kind, isBody]; exact rule.inner.2)
  rw [← Cursor.kind, isBody] at made
  have none : b.last?.filter (·.kind == item) = none := by
    rw [Option.filter_eq_none_iff]
    intro c isLast isItem
    have child : c ∈ b.children := List.mem_of_getLast? isLast
    have kind : c.kind = item := by simpa using isItem
    rcases (rule.of_body made).1 _ (List.mem_map_of_mem (Cursor.node_mem_children child)) with
      same | same
    · exact rule.ne_list (kind.symm.trans same)
    · exact present (kind.symm.trans same)
  rw [Cursor.items_eq, none, Option.toList_none, List.append_nil]

/-- The last child of a list node is the item it adds. -/
theorem mem_items_of_child {c d : Cursor} (place : d ∈ (parse text).cursors)
    (isList : d.kind = list) (child : c ∈ d.children) (isItem : c.kind = item) :
    c ∈ d.items list item := by
  have made := (parse_lawful text d.node (node_mem_nodes place)).rule_of_inner
    (by rw [← Cursor.kind, isList]; exact rule.inner.1)
  rw [← Cursor.kind, isList, ← Cursor.children_map_node, List.map_map] at made
  have other : c.kind ≠ list := isItem ▸ rule.ne_list
  have isLast : d.last? = some c := by
    rw [Cursor.last?]
    obtain ⟨last, -, alone | more⟩ := rule.of_list made
    · obtain ⟨x, children, -⟩ := List.map_eq_singleton_iff.mp alone
      rw [children, List.mem_singleton] at child
      rw [children, child]
      rfl
    · obtain ⟨y, tail, children, isInner, rest⟩ := List.map_eq_cons_iff.mp more
      obtain ⟨x, rfl, -⟩ := List.map_eq_singleton_iff.mp rest
      rw [children] at child
      rcases List.mem_cons.mp child with rfl | same
      · exact absurd isInner other
      · rw [children, List.mem_singleton.mp same]
        rfl
  rw [Cursor.items_eq, isLast]
  refine List.mem_append_right _ (Option.mem_toList.mpr ?_)
  simpa [Option.filter_eq_some_iff] using isItem

/-- The items of a chain are the nodes of their kind below a list for which the brackets around the
chain are the nearest. -/
theorem mem_items_iff (present : item ≠ .error) {b : Cursor} (place : b ∈ (parse text).cursors)
    (isBody : b.kind = body) {c : Cursor} :
    c ∈ b.items list item ↔ c ∈ (parse text).cursors ∧ c.kind = item ∧
      c.parentKind? = some list ∧ c.enclosing? body = some b := by
  constructor
  · intro member
    rw [items_of_body rule present place isBody] at member
    cases found : b.child? list with
    | none => simp [found] at member
    | some d =>
      have child := List.mem_of_find?_eq_some found
      have isList : d.kind = list := by simpa using List.find?_some found
      have lower := mem_cursors_of_child place child
      have around : d.enclosing? body = some b := by
        rw [Cursor.enclosing?_child child (isList ▸ rule.ne_body.2), Cursor.enclosing?_self isBody]
      exact items_within rule lower isList around (by simpa [found] using member)
  · rintro ⟨lower, isItem, isList, around⟩
    obtain ⟨d, up, kind⟩ := Option.map_eq_some_iff.mp isList
    obtain ⟨child, upper⟩ := (mem_cursors_iff.mp lower).mem_children_of_parent? rfl up
    rw [Cursor.enclosing?_child child (isItem ▸ rule.ne_body.1)] at around
    have own := mem_items_of_child rule (mem_cursors_iff.mpr upper) kind child isItem
    obtain ⟨b', -, -, -, nearest, part⟩ := exists_body rule (mem_cursors_iff.mpr upper) kind
    obtain rfl : b' = b := Option.some.inj (nearest.symm.trans around)
    exact part c own

end Chains

/-- A node that is neither an error nor a part of a list is not empty. -/
theorem parse_wide (text : Text) {n : Node} (member : n ∈ (parse text).nodes)
    (present : n.kind ≠ .error) (whole : n.kind.isCollection = false ∨ n.kind.isBody = true) :
    n.start < n.stop := by
  have order := Stream.ofText_inOrder text
  have arises := parse_arises text n member
  have wide : ∀ s depth m after, (Stream.ofText text).LeadsTo s →
      Parser.Reads s [(depth, m)] after → m.kind ≠ .error → m.start < m.stop := by
    intro s depth m after leads read other
    exact (read.laid (leads.inOrder order)).wide m (by simp) other
  rcases whole with single | isBody
  · by_cases isLeaf : n.kind.isLeaf = true
    · exact parse_solid text n member isLeaf present
    by_cases paren : n.kind = .parenExpr
    · rw [Node.Arises, paren] at arises
      obtain ⟨depth, s, leads, opens, same⟩ := arises
      have read := Parser.paren_reads (Parser.expr_subReads depth) opens
      rw [← same] at read
      have outer := wide _ _ _ _ leads read (by simp)
      have proper := ((parse_wellFormed text).ordered n member).1
      rwa [Node.wrap_start, Node.wrap_stop _ proper] at outer
    · have made := (parse_lawful text n member).rule_of_inner (by simpa using isLeaf)
      obtain ⟨k, among, other⟩ := made.exists_present single paren
      obtain ⟨c, child, rfl⟩ := List.mem_map.mp among
      have smaller := Node.sizeOf_lt_of_mem child
      have below := Node.mem_preorder_of_child member child
      have inside := (parse_wellFormed text).nested n member c child
      have narrow : c.kind.isCollection = false ∨ c.kind.isBody = true := by
        by_cases collects : c.kind.isCollection = true
        · rcases made.collection_child _ among collects with isBody | same | ⟨item, rule⟩
          · exact .inr isBody
          · rw [same, single] at collects
            cases collects
          · rw [rule.collects.1] at single
            cases single
        · exact .inl (by simpa using collects)
      have own := parse_wide text below other narrow
      omega
  · unfold NodeKind.isBody at isBody
    unfold Node.Arises at arises
    split at isBody
    · rename_i kind
      rw [kind] at arises
      obtain ⟨s, leads, opens, rfl⟩ := arises
      exact wide _ _ _ _ leads (Parser.labelMatchers_reads 0 opens) present
    · rename_i kind
      rw [kind] at arises
      obtain ⟨s, leads, opens, rfl⟩ := arises
      exact wide _ _ _ _ leads (Parser.groupingLabels_reads 0 opens) present
    · rename_i kind
      rw [kind] at arises
      obtain ⟨depth, s, leads, opens, rfl⟩ := arises
      exact wide _ _ _ _ leads (Parser.callBody_reads (Parser.expr_subReads depth) opens) present
    · cases isBody
termination_by sizeOf n

/-- Along a chain items come one after another, none of them empty. -/
theorem items_ordered {text : Text} {body list item : NodeKind} (rule : ListRule body list item)
    (present : item ≠ .error) {n : Node} (member : n ∈ (parse text).nodes)
    (isList : n.kind = list) :
    (n.items list item).Pairwise (fun x y => x.stop ≤ y.start) ∧
      ∀ x ∈ n.items list item, x.start < x.stop ∧ x.stop ≤ n.stop := by
  have formed := parse_wellFormed text
  have made := (parse_lawful text n member).rule_of_inner (by rw [isList]; exact rule.inner.1)
  rw [isList] at made
  have last_item : ∀ y ∈ (n.last?.filter (·.kind == item)).toList, y ∈ n.children ∧ y.kind = item ∧
      y.start < y.stop ∧ y.stop ≤ n.stop := by
    intro y last
    obtain ⟨isLast, isItem⟩ := Option.filter_eq_some_iff.mp (Option.mem_toList.mp last)
    have child : y ∈ n.children := List.mem_of_getLast? isLast
    have kind : y.kind = item := by simpa using isItem
    have wide := parse_wide text (Node.mem_preorder_of_child member child) (kind ▸ present)
      (.inl (kind ▸ rule.collects.2))
    exact ⟨child, kind, wide, (formed.nested n member y child).2⟩
  have alone : (n.last?.filter (·.kind == item)).toList.Pairwise fun x y => x.stop ≤ y.start := by
    cases n.last?.filter (·.kind == item) <;> simp
  rw [Node.items_eq]
  cases found : n.child? list with
  | none => exact ⟨alone, fun y last => (last_item y last).2.2⟩
  | some inner =>
    have child := Node.mem_children_of_child? found
    have isInner := Node.kind_of_child? found
    have smaller := Node.sizeOf_lt_of_mem child
    obtain ⟨sorted, inside⟩ :=
      items_ordered rule present (Node.mem_preorder_of_child member child) isInner
    have upper := (formed.nested n member inner child).2
    have gap : ∀ y ∈ n.children, y.kind = item → inner.stop ≤ y.start := by
      intro y other isItem
      have tidy := parse_tidy text n member
      rw [Node.Tidy] at tidy
      obtain ⟨last, own, single | double⟩ := rule.of_list made
      · obtain ⟨x, children, isLast⟩ := List.map_eq_singleton_iff.mp single
        simp only [children, List.mem_singleton] at child
        exact absurd (isLast.symm.trans (child ▸ isInner)) own.ne_list
      · obtain ⟨a, tail, children, -, rest⟩ := List.map_eq_cons_iff.mp double
        obtain ⟨x, rfl, isLast⟩ := List.map_eq_singleton_iff.mp rest
        simp only [children, List.mem_cons, List.not_mem_nil, or_false] at child other
        have atFront : inner = a := child.resolve_right fun same =>
          own.ne_list (isLast.symm.trans (same ▸ isInner))
        have behind : y = x := other.resolve_left fun same =>
          rule.ne_list (isItem.symm.trans (same.trans atFront.symm ▸ isInner))
        simp only [children, List.pairwise_pair] at tidy
        rw [atFront, behind]
        rcases tidy with before | overlay
        · exact before
        · exact absurd (isItem.symm.trans (behind ▸ overlay.isError)) present
    constructor
    · refine List.pairwise_append.mpr ⟨sorted, alone, fun x earlier y last => ?_⟩
      have before := gap y (last_item y last).1 (last_item y last).2.1
      have bound := (inside x earlier).2
      omega
    · intro x either
      rcases List.mem_append.mp either with earlier | last
      · have bound := inside x earlier
        omega
      · exact (last_item x last).2.2
termination_by sizeOf n

end SyntaxTree

end MetricQuery
