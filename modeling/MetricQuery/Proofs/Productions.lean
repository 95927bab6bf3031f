import MetricQuery.Proofs.Lawful
import MetricQuery.Proofs.Share
import MetricQuery.Proofs.WellFormed

/-!
Every node has the children that its production allows. An argument may be an error too, but only
where expressions nest as deep as they may: there the error takes all that is left of the input, so
it is the only argument of its call.
-/

set_option autoImplicit false

namespace MetricQuery

namespace Cursor

/-- An argument where expressions nest `limit` deep: no other one stands beside it. -/
structure OnlyArgument (limit : Nat) (c : Cursor) : Prop where
  deep : c.nesting = limit
  alone : ∃ list body : Cursor, c ∈ list.children ∧ list ∈ body.children ∧
    list.node.children = [c.node] ∧ body.kind = .functionCallBody

/-- Every error among the arguments below a cursor is the only one of its call. -/
def GivesUpAt (limit : Nat) (c : Cursor) : Prop :=
  ∀ e, c.Reaches e → e ≠ c → e.kind = .error → e.parentKind? = some .functionCallArgs →
    e.OnlyArgument limit

theorem givesUpAt_of_children {limit : Nat} {c : Cursor}
    (own : c.kind = .functionCallArgs → ∀ d ∈ c.children, d.kind = .error → d.OnlyArgument limit)
    (below : ∀ d ∈ c.children, d.GivesUpAt limit) : c.GivesUpAt limit := by
  intro e way other isError isArgument
  obtain ⟨d, child, lower⟩ := way.cases_child.resolve_left other
  by_cases same : e = d
  · subst same
    rw [parentKind?, parent?_of_mem_children child] at isArgument
    exact own (Option.some.inj isArgument) e child isError
  · exact below d child e lower same isError isArgument

theorem givesUpAt_of_childless {limit : Nat} {c : Cursor} (childless : c.node.children = []) :
    c.GivesUpAt limit := by
  have none : ∀ d ∈ c.children, False := by
    intro d child
    have inside := node_mem_children child
    rw [childless] at inside
    cases inside
  exact givesUpAt_of_children (fun _ d child => (none d child).elim) fun d child =>
    (none d child).elim

theorem nesting_of_isFlat {c d : Cursor} (flat : c.kind.isFlat = true) (child : d ∈ c.children) :
    d.nesting = c.nesting := by
  obtain ⟨index, -, frames⟩ := mem_children.mp child
  rw [nesting_child frames, NodeKind.nestsAt_of_isFlat flat]
  rfl

end Cursor

namespace Parser

variable {limit depth : Nat}

/-- A list none of whose items is an error gives up nowhere but inside its items. -/
theorem chain_givesUpAt {body list item : NodeKind} (rule : ListRule body list item)
    {items : List Node} (present : ∀ n ∈ items, n.kind ≠ .error)
    (each : ∀ n ∈ items, ∀ d, Placed limit d (depth, n) → d.GivesUpAt limit) {c : Cursor}
    (same : chain list items = some c.node)
    (level : c.nesting + (depth + (list.nestsAt 0 1).toNat) = limit) : c.GivesUpAt limit := by
  induction items using List.reverseRecOn generalizing c with
  | nil => cases same
  | append_singleton items last ih =>
    have pushed : c.node = pushItem list (chain list items) last := by
      rw [chain_concat] at same
      exact (Option.some.inj same).symm
    have earlier : ∀ n ∈ items, n ∈ items ++ [last] := fun n member => List.mem_append_left _ member
    -- A child is the list before, which is no error, or the last item.
    have cases_child : ∀ d ∈ c.children, d.kind ≠ .error ∧ d.GivesUpAt limit := by
      intro d child
      obtain ⟨x, member, placed⟩ :=
        exists_of_forall₂ (pushItem_places rule.chains pushed level) child
      rcases List.mem_append.mp member with before | final
      · obtain ⟨inner, found, rfl⟩ := List.mem_map.mp before
        have kind : d.kind = list := by
          rw [Cursor.kind, placed.1]
          exact chain_kind list items inner found
        refine ⟨kind ▸ (list_kind rule).1, ih (fun n member => present n (earlier n member))
          (fun n member => each n (earlier n member)) ?_ placed.2⟩
        rw [placed.1]
        exact Option.mem_toList.mp found
      · obtain rfl := List.mem_singleton.mp final
        refine ⟨?_, each last (by simp) d placed⟩
        rw [Cursor.kind, placed.1]
        exact present last (by simp)
    refine Cursor.givesUpAt_of_children (fun _ d child isError => ?_) fun d child => ?_
    · exact absurd isError (cases_child d child).1
    · exact (cases_child d child).2

/-- A list of one item, where nothing may nest any more, may hold an error. -/
theorem single_givesUpAt {body list item : NodeKind} (rule : ListRule body list item) {n : Node}
    (each : ∀ e, Placed limit e (0, n) → e.GivesUpAt limit) {c d : Cursor} (kind : c.kind = body)
    (child : d ∈ c.children) (same : d.node = pushItem list none n)
    (level : d.nesting + (0 + (list.nestsAt 0 1).toNat) = limit) : d.GivesUpAt limit := by
  have places : List.Forall₂ (Placed limit) d.children [(0, n)] :=
    pushItem_places rule.chains same level
  obtain ⟨e, only, placed⟩ := eq_singleton_of_forall₂ places
  have inside : e ∈ d.children := by simp [only]
  have nodes : d.node.children = [e.node] := by
    rw [← Cursor.children_map_node, only]
    rfl
  refine Cursor.givesUpAt_of_children (fun isList f among _ => ?_) fun f among => ?_
  · rw [only, List.mem_singleton] at among
    subst among
    refine ⟨placed.2, d, c, inside, child, nodes, ?_⟩
    have name : list = .functionCallArgs := by
      rw [← isList, Cursor.kind, same]
      rfl
    subst name
    rw [kind]
    cases rule
    rfl
  · rw [only, List.mem_singleton] at among
    subst among
    exact each f placed

/-- A list of arguments gives up where it must, and there only. -/
theorem list_givesUpAt {body list item : NodeKind} (rule : ListRule body list item)
    {parts : List Part} (whole : Part.Whole depth parts)
    (each : ∀ n, .item n ∈ parts → ∀ e, Placed limit e (depth, n) → e.GivesUpAt limit)
    {c d : Cursor} (kind : c.kind = body) (child : d ∈ c.children)
    (same : chain list (parts.filterMap Part.item?) = some d.node)
    (level : d.nesting + (depth + (list.nestsAt 0 1).toNat) = limit) : d.GivesUpAt limit := by
  rcases whole with present | ⟨rfl, few⟩
  · exact chain_givesUpAt rule (fun n member => present n (mem_items.mp member))
      (fun n member => each n (mem_items.mp member)) same level
  · match found : parts.filterMap Part.item?, few with
    | [], _ =>
      rw [found] at same
      cases same
    | [n], _ =>
      rw [found] at same
      refine single_givesUpAt rule (each n ?_) kind child (Option.some.inj same).symm level
      rw [← mem_items, found]
      exact List.mem_singleton_self n

/-- Whatever is read gives up only where expressions nest as deep as they may. -/
theorem Reads.givesUpAt {s after : Stream} {forest : List Grown} (read : Reads s forest after) :
    ∀ x ∈ forest, ∀ c, Placed limit c x → c.GivesUpAt limit := by
  induction read with
  | done => simp
  | append _ _ front back =>
    intro x member
    rcases List.mem_append.mp member with member | member
    · exact front x member
    · exact back x member
  | punctuation => simp
  | leaf | missing | swallow =>
    rintro x (_ | _) c placed
    · exact Cursor.givesUpAt_of_childless (by rw [placed.1]; rfl)
    · contradiction
  | @branch s after forest depth start stop kind inner rule edges levels binds made ih =>
    rintro x (_ | _) c placed
    · have kind_eq : c.kind = kind := by rw [Cursor.kind, placed.1]; rfl
      have places : List.Forall₂ (Placed limit) c.children forest :=
        placed_children (by rw [placed.1]; rfl) placed.2 (by rwa [kind_eq])
      refine Cursor.givesUpAt_of_children (fun isList => ?_) fun d child => ?_
      · have single := made.single
        rw [← kind_eq, isList] at single
        cases single
      · obtain ⟨y, member, placed'⟩ := exists_of_forall₂ places child
        exact ih y member d placed'
    · contradiction
  | @list s after parts depth body list inner fits known opens whole ih =>
    obtain ⟨item, rule⟩ := known
    have each : ∀ part ∈ parts, ∀ d, Placed limit d (part.grown depth (list.nestsAt 0 1)) →
        d.GivesUpAt limit := fun part member => ih _ (List.mem_map_of_mem member)
    rintro x (_ | _) c placed
    · have kind : c.kind = body := by rw [Cursor.kind, placed.1]; rfl
      refine Cursor.givesUpAt_of_children (fun isList => ?_) fun d child => ?_
      · rw [kind] at isList
        subst isList
        cases rule
      · have flat : c.kind.isFlat = true := by
          rw [kind]
          cases rule <;> rfl
        have level : d.nesting + (depth + (list.nestsAt 0 1).toNat) = limit := by
          rw [Cursor.nesting_of_isFlat flat child]
          exact placed.2
        have inside := Cursor.node_mem_children child
        rw [placed.1] at inside
        rcases mem_listChildren.mp inside with isList | isStray
        · exact list_givesUpAt rule whole (fun n member => each _ member) kind child isList level
        · exact each _ isStray d ⟨rfl, level⟩
    · contradiction
  | @offsetBack s middle expr depth keyword sign length rest operand isExpr next _ _ _ ih =>
    rintro x (_ | _) c placed
    · have kind : c.kind = .offsetExpr := by rw [Cursor.kind, placed.1]; rfl
      refine Cursor.givesUpAt_of_children (fun isList => ?_) fun d child => ?_
      · rw [kind] at isList
        cases isList
      · have level : d.nesting + depth = limit := by
          rw [Cursor.nesting_of_isFlat (by rw [kind]; rfl) child]
          exact placed.2
        have inside := Cursor.node_mem_children child
        rw [placed.1] at inside
        simp only [Node.branch_children, List.mem_cons, List.not_mem_nil, or_false] at inside
        rcases inside with same | same | same
        · exact ih _ List.mem_cons_self d ⟨same, level⟩
        · exact Cursor.givesUpAt_of_childless (by rw [same]; rfl)
        · exact Cursor.givesUpAt_of_childless (by rw [same]; rfl)
    · contradiction

end Parser

namespace SyntaxTree

theorem parse_givesUpAt (text : Text) :
    (parse text).cursor.GivesUpAt (Parser.maxDepth + 1) := by
  obtain ⟨ts, -, -, -, whole, -⟩ := exists_tokens text
  obtain ⟨forest, after, read, -, root, levels, -⟩ :=
    Parser.query_reads ⟨ts, Text.size text, 0⟩ (Text.size text)
  have node : (parse text).cursor.node =
      .branch .query 0 (Text.size text) (forest.map Prod.snd) := by
    rw [whole, ← root]
    rfl
  have places : List.Forall₂ (Parser.Placed (Parser.maxDepth + 1)) (parse text).cursor.children
      forest := by
    refine Parser.placed_children (by rw [node]; rfl) (Nat.zero_add _) ?_
    rwa [Cursor.kind, node]
  refine Cursor.givesUpAt_of_children (fun isList => ?_) fun d child => ?_
  · rw [Cursor.kind, node] at isList
    cases isList
  · obtain ⟨x, member, placed⟩ := Parser.exists_of_forall₂ places child
    exact read.givesUpAt x member d placed

/-- No argument but the first is an error. -/
theorem parse_arguments (text : Text) :
    ∀ n ∈ (parse text).nodes, n.kind = .functionCallArgs →
      n.children.map Node.kind ≠ [.functionCallArgs, .error] := by
  intro n member isList kinds
  have place : n ∈ (parse text).cursor.below.map Cursor.node := by
    rw [Cursor.below_map_node]
    exact member
  obtain ⟨c, below, rfl⟩ := List.mem_map.mp place
  have two : c.children.map Cursor.kind = [.functionCallArgs, .error] := by
    rw [← kinds, ← Cursor.children_map_node, List.map_map]
    rfl
  obtain ⟨d, tail, same, -, rest⟩ := List.map_eq_cons_iff.mp two
  obtain ⟨e, tail, rfl, isError, nil⟩ := List.map_eq_cons_iff.mp rest
  have child : e ∈ c.children := by simp [same]
  have way := Cursor.reaches_of_mem_below below
  have only := parse_givesUpAt text e (way.down child) (Cursor.ne_root_of_child child _) isError
    (by rw [Cursor.parentKind?, Cursor.parent?_of_mem_children child]; exact congrArg some isList)
  obtain ⟨list, body, inside, -, alone, -⟩ := only.alone
  have parent : list = c := by
    have up := Cursor.parent?_of_mem_children inside
    rw [Cursor.parent?_of_mem_children child] at up
    exact (Option.some.inj up).symm
  rw [parent, ← Cursor.children_map_node, same] at alone
  simp at alone

/-- Every node of the tree of a text is a leaf without children or has those of its production, and
an argument is an error only where expressions nest as deep as they may. -/
theorem parse_productions (text : Text) :
    (∀ n ∈ (parse text).nodes, n.children = [] ∧ n.kind.isLeaf = true ∨
      Rule n.kind (n.children.map Node.kind)) ∧
    ∀ c ∈ (parse text).cursors, c.kind = .error → c.parentKind? = some .functionCallArgs →
      c.OnlyArgument (Parser.maxDepth + 1) := by
  refine ⟨fun n member => (parse_lawful text n member).rule, ?_⟩
  intro c place isError isArgument
  refine parse_givesUpAt text c (mem_cursors_iff.mp place) ?_ isError isArgument
  rintro rfl
  cases isArgument

end SyntaxTree

end MetricQuery
