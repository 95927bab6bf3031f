import MetricQuery.Proofs.Everywhere
import MetricQuery.Proofs.ReadingExpr
import MetricQuery.Proofs.TokenRange

/-!
Every node of every tree obeys the rules: a leaf has no children, any other node has the children
that the rule of its kind asks for, and operands bind as tight as their operator asks.
-/

set_option autoImplicit false

namespace MetricQuery

/-- A node obeys the rule of its kind. -/
structure Node.Lawful (n : Node) : Prop where
  rule : n.children = [] ∧ n.kind.isLeaf = true ∨ Rule n.kind (n.children.map Node.kind)
  binds : n.Binds

namespace Node

theorem Lawful.rule_of_inner {n : Node} (lawful : n.Lawful) (inner : n.kind.isLeaf = false) :
    Rule n.kind (n.children.map Node.kind) := by
  rcases lawful.rule with ⟨-, isLeaf⟩ | rule
  · rw [inner] at isLeaf
    cases isLeaf
  · exact rule

theorem lawful_of_flat {n : Node} (flat : n.kind.isFlat = true)
    (rule : Rule n.kind (n.children.map Node.kind)) : n.Lawful :=
  ⟨.inr rule, binds_of_isFlat flat⟩

theorem lawful_leaf {kind : NodeKind} (start stop : Nat) (isLeaf : kind.isLeaf = true) :
    (leaf kind start stop).Everywhere Lawful := by
  refine everywhere_leaf ⟨.inl ⟨rfl, isLeaf⟩, binds_of_isFlat ?_⟩
  cases kind <;> first | rfl | cases isLeaf

end Node

namespace Parser

/-- A list is neither an error nor an expression. -/
theorem list_kind {body list item : NodeKind} (rule : ListRule body list item) :
    list ≠ .error ∧ list ≠ .binaryExpr ∧ list ≠ .unaryExpr := by
  cases rule <;> simp

/-- Each node of a list holds the list before it, if there is one, and one item. -/
theorem pushItem_lawful {body list : NodeKind} {before : Option Node} {item : Node}
    (rule : ListRule body list item.kind) (earlier : ∀ n ∈ before, n.kind = list) :
    (pushItem list before item).Lawful := by
  refine ⟨.inr ?_, ?_⟩
  · cases before with
    | none => exact .listStart rule
    | some n =>
      have same := earlier n rfl
      simp only [pushItem, Node.branch_kind, Node.branch_children, Option.toList_some,
        List.singleton_append, List.map_cons, List.map_nil, same]
      exact .listMore rule
  · exact ⟨fun same => absurd same (list_kind rule).2.1,
      fun same => absurd same (list_kind rule).2.2⟩

theorem chain_kind (list : NodeKind) (items : List Node) :
    ∀ n ∈ (chain list items).toList, n.kind = list := by
  intro n member
  have chained := everywhere_foldl_pushItem (P := fun _ => True) list items none (by simp)
    (fun _ _ _ _ => trivial) (fun _ _ _ _ => trivial)
  exact (chained n (Option.mem_toList.mp member)).1

/-- Between brackets there is at most one list, and everything else is an error. -/
theorem listChildren_rule {body list item : NodeKind} {parts : List Part}
    (rule : ListRule body list item) (fits : ∀ part ∈ parts, part.Fits body list) :
    Rule body ((listChildren list parts).map Node.kind) := by
  have strays : ∀ k ∈ (parts.filterMap Part.stray?).map Node.kind, k = .error := by
    intro k member
    obtain ⟨n, found, rfl⟩ := List.mem_map.mp member
    obtain ⟨part, inside, same⟩ := List.mem_filterMap.mp found
    cases part with
    | item node => cases same
    | stray node => exact Option.some.inj same ▸ fits _ inside
  have kinds : ((listChildren list parts).map Node.kind).Perm
      ((chain list (parts.filterMap Part.item?)).toList.map Node.kind ++
        (parts.filterMap Part.stray?).map Node.kind) := by
    rw [← List.map_append]
    exact (stableSort_perm _ _).map Node.kind
  refine .body rule ?_ ?_
  · intro k member
    rcases List.mem_append.mp (kinds.mem_iff.mp member) with member | member
    · obtain ⟨n, found, rfl⟩ := List.mem_map.mp member
      exact .inl (chain_kind list _ n found)
    · exact .inr (strays k member)
  · rw [kinds.count_eq, List.count_append]
    have none : ((parts.filterMap Part.stray?).map Node.kind).count list = 0 := by
      refine List.count_eq_zero.mpr fun member => ?_
      exact (list_kind rule).1 (strays list member)
    have one : ((chain list (parts.filterMap Part.item?)).toList.map Node.kind).count list ≤ 1 := by
      refine Nat.le_trans List.count_le_length ?_
      rw [List.length_map]
      exact Option.length_toList_le
    omega

/-- Whatever is read obeys the rules. -/
theorem Reads.lawful {s after : Stream} {forest : List Grown} (read : Reads s forest after) :
    ∀ x ∈ forest, x.2.Everywhere Node.Lawful := by
  induction read with
  | done => simp
  | append _ _ front back =>
    intro x member
    rcases List.mem_append.mp member with member | member
    · exact front x member
    · exact back x member
  | punctuation => simp
  | leaf depth kind isLeaf =>
    rintro x (_ | _)
    · exact Node.lawful_leaf _ _ isLeaf
    · contradiction
  | missing s depth =>
    rintro x (_ | _)
    · exact Node.lawful_leaf _ _ rfl
    · contradiction
  | swallow =>
    rintro x (_ | _)
    · exact Node.lawful_leaf _ _ rfl
    · contradiction
  | @branch s after forest depth start stop kind inner rule edges levels binds made ih =>
    rintro x (_ | _)
    · refine Node.everywhere_branch ⟨.inr ?_, binds⟩ ?_
      · rw [Node.branch_children, List.map_map]
        exact rule
      · intro c member
        obtain ⟨x, inside, rfl⟩ := List.mem_map.mp member
        exact ih x inside
    · contradiction
  | @list s after parts depth body list inner fits known opens whole ih =>
    obtain ⟨item, rule⟩ := known
    have each : ∀ part ∈ parts, part.node.Everywhere Node.Lawful := by
      intro part member
      have inside := ih _ (List.mem_map.mpr ⟨part, member, rfl⟩)
      rwa [Part.grown_snd] at inside
    rintro x (_ | _)
    · refine Node.everywhere_branch (Node.lawful_of_flat ?_ (listChildren_rule rule fits)) ?_
      · cases rule <;> rfl
      · refine everywhere_listChildren list parts each fun before earlier item member => ?_
        exact pushItem_lawful (fits _ member) fun n found => (earlier n found).1
    · contradiction
  | @offsetBack s middle expr depth keyword sign length rest operand isExpr next _ _ _ ih =>
    rintro x (_ | _)
    · refine Node.everywhere_branch (Node.lawful_of_flat rfl ?_) ?_
      · simp only [Node.branch_kind, Node.branch_children, List.map_cons, isExpr, List.map_nil]
        exact .offsetExpr (.inl rfl)
      · simp only [List.mem_cons, forall_eq_or_imp, List.not_mem_nil, false_implies, implies_true,
          and_true]
        exact ⟨ih _ List.mem_cons_self, Node.lawful_leaf _ _ rfl, Node.lawful_leaf _ _ rfl⟩
    · contradiction

end Parser

/-- Every node of the tree of a text obeys the rules. -/
theorem SyntaxTree.parse_lawful (text : Text) : ∀ n ∈ (parse text).nodes, n.Lawful := by
  obtain ⟨ts, -, -, -, whole, -⟩ := exists_tokens text
  obtain ⟨forest, after, read, -, root, -, rule⟩ :=
    Parser.query_reads ⟨ts, Text.size text, 0⟩ (Text.size text)
  rw [whole, root]
  refine Node.everywhere_branch ⟨.inr ?_, ?_⟩ ?_
  · rw [Node.branch_children, List.map_map]
    exact rule
  · constructor <;> intro same <;> cases same
  · intro c member
    obtain ⟨x, inside, rfl⟩ := List.mem_map.mp member
    exact read.lawful x inside

end MetricQuery
