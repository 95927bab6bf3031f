import MetricQuery.Proofs.CheckedCuts
import MetricQuery.Proofs.EditRange
import MetricQuery.Proofs.Siblings
import MetricQuery.Typing.Check

/-!
What the check reports. The walk over an expression puts its diagnostics together from single ones,
each about a node it met, and from what matching finds wrong with a binary expression; none of them
reads like the complaint about an error node. Sorting moves nothing past what starts at the same
place.
-/

set_option autoImplicit false

namespace MetricQuery

/-- Sorting keeps the order of those that may stand in any order. -/
theorem filter_stableSort {α : Type} {le : α → α → Bool} {p : α → Bool} {as : List α}
    (equals : ∀ a b, p a = true → p b = true → le a b = true) :
    (stableSort le as).filter p = as.filter p := by
  have sorted : (as.filter p).Pairwise fun a b => le a b = true := by
    apply List.pairwise_of_forall_mem_list
    intro a first b second
    exact equals a b (List.of_mem_filter first) (List.of_mem_filter second)
  have kept : (as.filter p).Sublist (stableSort le as) := by
    rw [stableSort_eq_insertionSort]
    exact List.sublist_insertionSort sorted List.filter_sublist
  have inside : (as.filter p).Sublist ((stableSort le as).filter p) := by
    have again := kept.filter p
    simpa only [List.filter_filter, Bool.and_self] using again
  have long := ((stableSort_perm le as).filter p).length_eq
  exact (inside.eq_of_length long.symm).symm

namespace Diagnostic

instance le_total : Std.Total fun a b : Diagnostic => le a b = true :=
  ⟨fun a b => by simpa [le] using Nat.le_total a.start b.start⟩

instance le_trans : IsTrans Diagnostic fun a b => le a b = true :=
  ⟨fun a b c first next => by
    simp only [le, decide_eq_true_eq] at first next ⊢
    omega⟩

theorem stableSort_sorted (ds : List Diagnostic) :
    (stableSort le ds).Pairwise fun d e => d.start ≤ e.start := by
  rw [stableSort_eq_insertionSort]
  exact (List.pairwise_insertionSort _ ds).imp (by simp [le])

end Diagnostic

namespace Node

/-- What a path leads to is in the tree. -/
theorem mem_preorder_of_at? {n m : Node} {path : List NodeKind} (found : n.at? path = some m) :
    m ∈ n.preorder := by
  have all : n.Everywhere (· ∈ n.preorder) := fun _ member => member
  exact (all.at? found).top

/-- Messages that are not said of a node by itself: the one about error nodes, and the two about
the pairing of set operators, which are said together. -/
def reserved : List String :=
  ["unexpected expression", "no grouping allowed for set operations",
    "set operations must always be many-to-many"]

/-- A message is not reserved if it begins with letters that none of these begins with. -/
theorem append_notMem_reserved {letters first second third : List Char} (rest : String)
    (spelled : reserved = [.ofList first, .ofList second, .ofList third])
    (apart : ∀ message ∈ [first, second, third], letters.isPrefixOf message = false) :
    String.ofList letters ++ rest ∉ reserved := by
  have ne : ∀ message ∈ [first, second, third],
      String.ofList letters ++ rest ≠ String.ofList message := by
    intro message member same
    have whole := congrArg String.toList same
    rw [String.toList_append, String.toList_ofList, String.toList_ofList] at whole
    have begins := List.isPrefixOf_iff_prefix.mpr ⟨rest.toList, whole⟩
    rw [apart message member] at begins
    cases begins
  simpa [spelled] using ne

/-- Diagnostics put together from what can be said of single nodes of `n`. -/
inductive Gathered (source : Text) (n : Node) : List Diagnostic → Prop
  | nil : Gathered source n []
  | append {ds es : List Diagnostic} :
      Gathered source n ds → Gathered source n es → Gathered source n (ds ++ es)
  | worded {m : Node} {message : String} :
      m ∈ n.preorder → message ∉ reserved → Gathered source n [m.problem message]
  | grouped {m : Node} : m ∈ n.preorder →
      Gathered source n [m.problem "no grouping allowed for set operations",
        m.problem "set operations must always be many-to-many"]

namespace Gathered

variable {source : Text} {n m : Node}

theorem mono {ds : List Diagnostic} (gathered : Gathered source m ds) (below : m ∈ n.preorder) :
    Gathered source n ds := by
  induction gathered with
  | nil => exact .nil
  | append _ _ front back => exact .append front back
  | worded member free => exact .worded (mem_preorder_trans below member) free
  | grouped member => exact .grouped (mem_preorder_trans below member)

theorem ifNot {p : Prop} [Decidable p] {ds : List Diagnostic} (gathered : Gathered source n ds) :
    Gathered source n (if p then [] else ds) := by
  split
  · exact .nil
  · exact gathered

theorem ifSo {p : Prop} [Decidable p] {ds : List Diagnostic} (gathered : Gathered source n ds) :
    Gathered source n (if p then ds else []) := by
  split
  · exact gathered
  · exact .nil

theorem flatMap {α : Type} {as : List α} {f : α → List Diagnostic}
    (each : ∀ a ∈ as, Gathered source n (f a)) : Gathered source n (as.flatMap f) := by
  induction as with
  | nil => exact .nil
  | cons a as ih =>
    rw [List.forall_mem_cons] at each
    exact .append each.1 (ih each.2)

theorem mismatch (member : m ∈ n.preorder) (want : ValueType) (place : String) :
    Gathered source n (m.mismatch want place) := by
  unfold Node.mismatch
  refine ifNot (.worded member ?_)
  simp only [String.append_assoc]
  exact append_notMem_reserved _ rfl (by decide)

theorem arity (member : m ∈ n.preorder) (f : QueryFunction) :
    Gathered source n (m.arityProblems f) := by
  unfold arityProblems
  dsimp only
  split
  · exact .nil
  · refine .worded member ?_
    simp only [String.append_assoc]
    exact append_notMem_reserved _ rfl (by decide)

theorem selector (member : m ∈ n.preorder) : Gathered source n (selectorProblems source m) := by
  unfold selectorProblems
  apply append
  · apply ifNot
    split
    · refine .worded member ?_
      simp only [String.append_assoc]
      exact append_notMem_reserved _ rfl (by decide)
    · exact .nil
  · exact ifNot (.worded member (by simp [reserved]))

/-- A set operator pairs many with many unless there is a group clause, so the two complaints about
its pairing are made together. -/
theorem pairing (member : m ∈ n.preorder) (lt rt : ValueType) :
    Gathered source n (matchingProblems m (Matching.ofBinary? source m)
      ((m.operator?.map BinaryOp.isSetOperator).getD false) lt rt) := by
  unfold Matching.ofBinary?
  cases m.operator? with
  | none => exact .nil
  | some op =>
    simp only [Option.map_some, Option.getD_some, matchingProblems]
    split
    · exact ifNot (.worded member (by simp [reserved]))
    cases isSet : op.isSetOperator with
    | false => exact .nil
    | true =>
      generalize Matching.ofModifiers source (m.child? .binModifiers) = read
      cases card : read.card with
      | oneToOne => simpa [card] using nil
      | manyToMany => simpa [card] using nil
      | manyToOne => simpa [card] using grouped member
      | oneToMany => simpa [card] using grouped member

/-- What is wrong with a binary expression is said of it or of one of its sides. -/
theorem binary {lhs rhs : Node} (member : m ∈ n.preorder) (left : lhs ∈ n.preorder)
    (right : rhs ∈ n.preorder) : Gathered source n (binaryProblems source m lhs rhs) := by
  unfold binaryProblems
  refine append (append (append (append (append ?_ ?_) ?_) ?_) ?_) ?_
  · split
    · exact ifNot (.worded member (by simp [reserved]))
    · exact ifSo (.worded member (by simp [reserved]))
  · rw [List.map_eq_flatMap]
    refine flatMap fun label _ => .worded member ?_
    simp only [String.append_assoc]
    exact append_notMem_reserved _ rfl (by decide)
  · exact ifNot (.worded left (by simp [reserved]))
  · exact ifNot (.worded right (by simp [reserved]))
  · exact pairing member _ _
  · exact ifSo (.worded member (by simp [reserved]))

/-- Each diagnostic is about a node, and none reads like the complaint about an error node. -/
theorem about {ds : List Diagnostic} (gathered : Gathered source n ds) :
    ∀ d ∈ ds, d.message ≠ "unexpected expression" ∧
      ∃ m ∈ n.preorder, d.start = m.start ∧ d.stop = m.stop := by
  induction gathered with
  | nil => simp
  | append _ _ front back =>
    intro d member
    rcases List.mem_append.mp member with member | member
    · exact front d member
    · exact back d member
  | @worded m message member free =>
    intro d said
    rw [List.mem_singleton] at said
    subst said
    have other : message ≠ "unexpected expression" := by
      rintro rfl
      exact free (by simp [reserved])
    exact ⟨other, m, member, rfl, rfl⟩
  | @grouped m member =>
    intro d said
    have either : d = m.problem "no grouping allowed for set operations" ∨
        d = m.problem "set operations must always be many-to-many" := by simpa using said
    rcases either with rfl | rfl
    · exact ⟨by simp [problem], m, member, rfl, rfl⟩
    · exact ⟨by simp [problem], m, member, rfl, rfl⟩

end Gathered

section Forms

variable {source : Text} {n : Node}

theorem gathered_around
    (kind : n.kind = .parenExpr ∨ n.kind = .matrixSelector ∨ n.kind = .offsetExpr)
    (operand : ∀ c, n.at? [.expr] = some c → Gathered source n (c.problems source)) :
    Gathered source n (n.problems source) := by
  rw [problems]
  rcases kind with kind | kind | kind <;>
  · simp only [kind]
    split
    · rename_i found
      exact operand _ found
    · exact .nil

theorem gathered_unary (kind : n.kind = .unaryExpr)
    (operand : ∀ c, n.at? [.expr] = some c → Gathered source n (c.problems source)) :
    Gathered source n (n.problems source) := by
  rw [problems]
  simp only [kind]
  apply Gathered.append
  · split
    · rename_i found
      exact operand _ found
    · exact .nil
  · refine .ifNot (.worded n.mem_preorder_self ?_)
    simp only [String.append_assoc]
    exact append_notMem_reserved _ rfl (by decide)

theorem gathered_subquery (kind : n.kind = .subqueryExpr)
    (operand : ∀ c, n.at? [.expr] = some c → Gathered source n (c.problems source)) :
    Gathered source n (n.problems source) := by
  rw [problems]
  simp only [kind]
  apply Gathered.append
  · split
    · rename_i found
      exact operand _ found
    · exact .nil
  · refine .ifNot (.worded n.mem_preorder_self ?_)
    simp only [String.append_assoc]
    exact append_notMem_reserved _ rfl (by decide)

theorem gathered_aggregate (kind : n.kind = .aggregateExpr)
    (inner : ∀ first path c, n.at? (first :: path) = some c →
      Gathered source n (c.problems source)) : Gathered source n (n.problems source) := by
  have self := n.mem_preorder_self
  rw [problems]
  simp only [kind]
  split
  · exact .worded self (by simp [reserved])
  split
  · exact .worded self (by simp [reserved])
  rename_i last found
  have below := mem_preorder_of_at? found
  refine .append (.append (inner _ _ _ found) (.mismatch below _ _)) ?_
  split
  · exact .nil
  split
  · exact .worded self (by simp [reserved])
  · rename_i parameter earlier
    have before := mem_preorder_of_at? earlier
    exact .append (inner _ _ _ earlier) (.mismatch before _ _)

theorem gathered_binary (kind : n.kind = .binaryExpr)
    (child : ∀ c ∈ n.children, Gathered source n (c.problems source)) :
    Gathered source n (n.problems source) := by
  have self := n.mem_preorder_self
  rw [problems]
  simp only [kind]
  split
  · rename_i first last
    have left := List.mem_of_mem_head? first
    have right := List.mem_of_getLast? last
    refine .append (.append (child _ left) (child _ right)) ?_
    exact .binary self (mem_preorder_of_mem left) (mem_preorder_of_mem right)
  · exact .worded self (by simp [reserved])

theorem gathered_call (kind : n.kind = .functionCall)
    (argument : ∀ c ∈ n.callArguments, Gathered source n (c.problems source)) :
    Gathered source n (n.problems source) := by
  have self := n.mem_preorder_self
  rw [problems]
  simp only [kind]
  split
  · exact .worded self (by simp [reserved])
  split
  · refine .append (.arity self _) (.flatMap ?_)
    rintro ⟨⟨c, member⟩, want⟩ -
    have below := mem_preorder_of_callArguments member
    exact .append (argument c member) (.mismatch below _ _)
  · exact .nil

end Forms

/-- The walk over an expression says nothing but what can be said of its nodes. -/
theorem problems_gathered (source : Text) (n : Node) : Gathered source n (n.problems source) := by
  have child : ∀ c ∈ n.children, Gathered source n (c.problems source) := by
    intro c member
    have smaller := sizeOf_lt_of_mem member
    exact (problems_gathered source c).mono (mem_preorder_of_mem member)
  have inner : ∀ first path c, n.at? (first :: path) = some c →
      Gathered source n (c.problems source) := by
    intro first path c found
    have smaller := sizeOf_at?_lt found
    exact (problems_gathered source c).mono (mem_preorder_of_at? found)
  have argument : ∀ c ∈ n.callArguments, Gathered source n (c.problems source) := by
    intro c member
    have smaller := sizeOf_callArguments_lt member
    exact (problems_gathered source c).mono (mem_preorder_of_callArguments member)
  have operand := inner .expr []
  cases kind : n.kind with
  | expr =>
    rw [problems]
    simp only [kind]
    split
    · rename_i found
      exact child _ (List.mem_of_mem_head? found)
    · exact .nil
  | parenExpr => exact gathered_around (.inl kind) operand
  | matrixSelector => exact gathered_around (.inr (.inl kind)) operand
  | offsetExpr => exact gathered_around (.inr (.inr kind)) operand
  | unaryExpr => exact gathered_unary kind operand
  | subqueryExpr => exact gathered_subquery kind operand
  | vectorSelector =>
    rw [problems]
    simp only [kind]
    exact .selector n.mem_preorder_self
  | aggregateExpr => exact gathered_aggregate kind inner
  | binaryExpr => exact gathered_binary kind child
  | functionCall => exact gathered_call kind argument
  | _ =>
    rw [problems]
    simp only [kind]
    exact .nil
termination_by sizeOf n

end Node

namespace SyntaxTree

/-- What the walk over the expression reports, in the order of the walk. -/
def structuralProblems (t : SyntaxTree) : List Diagnostic :=
  (t.root.first?.map (Node.problems t.text)).getD []

/-- What the diagnostics of a tree look like, as they are gathered and once they are sorted. -/
structure Diagnosed (t : SyntaxTree) : Prop where
  gathered : t.check.Perm (t.structuralProblems ++ t.strayProblems)
  sorted : t.check.Pairwise fun d e => d.start ≤ e.start
  stable : ∀ start, t.check.filter (·.start == start) =
    t.structuralProblems.filter (·.start == start) ++ t.strayProblems.filter (·.start == start)
  ranges : ∀ d ∈ t.check, ∃ n ∈ t.nodes, d.start = n.start ∧ d.stop = n.stop
  bounds : ∀ d ∈ t.check, d.start ≤ d.stop ∧ d.stop ≤ t.size ∧
    Text.isBoundary t.text d.start = true ∧ Text.isBoundary t.text d.stop = true
  strays : (t.structuralProblems ++ t.strayProblems).filter
    (·.message == "unexpected expression") = t.strayProblems
  errors : List.Forall₂ (fun error d => d.start ≤ error.start ∧ error.start ≤ d.stop)
    (t.nodes.filter fun n => n.kind == .error && n.stop != t.size) t.strayProblems

theorem structuralProblems_about (t : SyntaxTree) :
    ∀ d ∈ t.structuralProblems, d.message ≠ "unexpected expression" ∧
      ∃ n ∈ t.nodes, d.start = n.start ∧ d.stop = n.stop := by
  rw [structuralProblems]
  cases first : t.root.first? with
  | none => simp
  | some top =>
    intro d member
    obtain ⟨other, n, below, start, stop⟩ := (Node.problems_gathered t.text top).about d member
    have child : top ∈ t.root.children := List.mem_of_mem_head? first
    exact ⟨other, n, Node.mem_preorder_trans (Node.mem_preorder_of_mem child) below, start, stop⟩

/-- What is reported of an error node is the node found at its start. -/
theorem strayProblems_about (text : Text) :
    ∀ d ∈ (parse text).strayProblems, d.message = "unexpected expression" ∧
      ∃ n ∈ (parse text).nodes, d.start = n.start ∧ d.stop = n.stop := by
  intro d member
  obtain ⟨error, -, rfl⟩ := List.mem_map.mp member
  exact ⟨rfl, _, node_mem_nodes (resolve_mem text error.start .before), rfl, rfl⟩

/-- The node found at a position of the tree reaches from before it to behind it. -/
theorem resolve_around {text : Text} {pos : Nat} (within : pos ≤ Text.size text) :
    ((parse text).resolve pos .before).node.start ≤ pos ∧
      pos ≤ ((parse text).resolve pos .before).node.stop := by
  have formed := parse_wellFormed text
  rcases resolve_covers with same | covers
  · rw [same]
    have start : (parse text).cursor.node.start = 0 := formed.root_start
    have stop : (parse text).cursor.node.stop = Text.size text := formed.root_stop
    omega
  · rw [Side.covers_before_iff] at covers
    omega

/-- Sorting neither adds nor loses a diagnostic. -/
theorem check_perm (t : SyntaxTree) : t.check.Perm (t.structuralProblems ++ t.strayProblems) :=
  stableSort_perm Diagnostic.le (t.structuralProblems ++ t.strayProblems)

/-- Every diagnostic is about a node. -/
theorem check_ranges (text : Text) :
    ∀ d ∈ (parse text).check, ∃ n ∈ (parse text).nodes, d.start = n.start ∧ d.stop = n.stop := by
  intro d member
  rcases List.mem_append.mp ((check_perm _).mem_iff.mp member) with structural | stray
  · exact (structuralProblems_about _ d structural).2
  · exact (strayProblems_about text d stray).2

/-- The diagnostics of every text: sorted by where they start, each over a node of the tree, one
for each error node that does not end with the text, and in the order they were found where they
start at one place. -/
theorem parse_diagnosed (text : Text) : (parse text).Diagnosed where
  gathered := check_perm _
  sorted := by
    have sorted := List.pairwise_insertionSort (fun a b => Diagnostic.le a b = true)
      ((parse text).structuralProblems ++ (parse text).strayProblems)
    rw [← stableSort_eq_insertionSort] at sorted
    exact sorted.imp (by simp [Diagnostic.le])
  stable := by
    intro start
    rw [← List.filter_append]
    apply filter_stableSort
    intro d e first second
    simp only [beq_iff_eq] at first second
    simp [Diagnostic.le, first, second]
  ranges := check_ranges text
  bounds := by
    intro d member
    have formed := parse_wellFormed text
    obtain ⟨n, inside, start, stop⟩ := check_ranges text d member
    rw [start, stop]
    exact ⟨(formed.ordered n inside).1, (formed.ordered n inside).2, formed.boundaries n inside⟩
  strays := by
    have none : (parse text).structuralProblems.filter
        (·.message == "unexpected expression") = [] := by
      rw [List.filter_eq_nil_iff]
      intro d member
      simpa using (structuralProblems_about _ d member).1
    rw [List.filter_append, none, List.nil_append, List.filter_eq_self]
    intro d member
    simpa using (strayProblems_about text d member).1
  errors := by
    have isError : ∀ n : Node, n.kind.isError = (n.kind == .error) := by
      intro n
      cases n.kind <;> rfl
    simp only [strayProblems, isError, List.forall₂_map_right_iff, List.forall₂_same]
    intro error member
    have inside := (List.mem_filter.mp member).1
    have ends := (parse_wellFormed text).ordered error inside
    exact resolve_around (ends.1.trans ends.2)

end SyntaxTree

end MetricQuery
