import MetricQuery.Proofs.Everywhere
import MetricQuery.Proofs.Place
import MetricQuery.Proofs.ReadingExpr
import MetricQuery.Proofs.TokenRange

/-!
Well-formed trees. Every end of a node is an end of a token, of the text or of nothing read at all,
so all of them stand on character boundaries; and a node covers its children, whatever range it was
made with.
-/

set_option autoImplicit false

namespace MetricQuery

/-- The ends of a node are marks, in order, and it covers its children. -/
structure Node.Sits (mark : Nat → Prop) (n : Node) : Prop where
  start : mark n.start
  stop : mark n.stop
  ordered : n.start ≤ n.stop
  covers : ∀ c ∈ n.children, n.start ≤ c.start ∧ c.stop ≤ n.stop

/-- Every place in the input that a stream can tell is a mark. -/
structure Stream.Marked (mark : Nat → Prop) (s : Stream) : Prop where
  tokens : ∀ t ∈ s.rest, mark t.start ∧ mark t.stop
  finish : mark s.finish
  last : mark s.last

namespace Node

variable {mark : Nat → Prop}

theorem settled_leaf {kind : NodeKind} {start stop : Nat} (first : mark start) (last : mark stop) :
    (leaf kind start stop).Everywhere (Sits mark) := by
  refine everywhere_leaf ⟨first, ?_, ?_, by simp⟩
  · rw [leaf_stop]
    rcases Nat.le_total start stop with before | before
    · rwa [Nat.max_eq_left before]
    · rwa [Nat.max_eq_right before]
  · simp only [leaf_start, leaf_stop]
    omega

/-- A branch sits on whatever marks it is asked to cover. -/
theorem sits_branch {kind : NodeKind} {start stop : Nat} {children : List Node}
    (first : mark start) (last : mark stop) (below : ∀ c ∈ children, c.Sits mark) :
    (branch kind start stop children).Sits mark := by
  refine ⟨?_, ?_, branch_start_le_stop _ _ _ _, ?_⟩
  · rcases branch_start_cases kind start stop children with same | ⟨c, child, same⟩
    · rwa [same]
    · rw [same]
      exact (below c child).start
  · rcases branch_stop_cases kind start stop children with same | same | ⟨c, child, same⟩
    · rwa [same]
    · rwa [same]
    · rw [same]
      exact (below c child).stop
  · intro c child
    exact ⟨branch_start_le_child child, child_stop_le_branch child⟩

/-- A branch over settled children is settled. -/
theorem settled_branch {kind : NodeKind} {start stop : Nat} {children : List Node}
    (first : mark start) (last : mark stop) (below : ∀ c ∈ children, c.Everywhere (Sits mark)) :
    (branch kind start stop children).Everywhere (Sits mark) :=
  everywhere_branch (sits_branch first last fun c child => (below c child).top) below

end Node

namespace Stream

variable {mark : Nat → Prop}

theorem Marked.current {s : Stream} (marked : s.Marked mark) :
    mark s.current.start ∧ mark s.current.stop := by
  unfold Stream.current
  split
  · exact ⟨marked.finish, marked.finish⟩
  · rename_i t rest found
    exact marked.tokens t (by rw [found]; exact List.mem_cons_self)

end Stream

namespace Parser

variable {mark : Nat → Prop}

theorem Reads.marked {s after : Stream} {forest : List Grown} (read : Reads s forest after)
    (marked : s.Marked mark) : after.Marked mark := by
  obtain ⟨ts, rest, finish, last⟩ := read.consumed
  refine ⟨?_, finish ▸ marked.finish, ?_⟩
  · intro t member
    exact marked.tokens t (by rw [rest]; exact List.mem_append_right ts member)
  · rw [last]
    cases found : ts.getLast? with
    | none => exact marked.last
    | some t =>
      refine (marked.tokens t ?_).2
      rw [rest]
      exact List.mem_append_left _ (List.mem_of_getLast? found)

/-- Whatever is read from a marked stream sits on marks. -/
theorem Reads.settled {s after : Stream} {forest : List Grown} (read : Reads s forest after)
    (marked : s.Marked mark) : ∀ x ∈ forest, x.2.Everywhere (Node.Sits mark) := by
  induction read with
  | done => simp
  | append first _ front back =>
    intro x member
    rcases List.mem_append.mp member with member | member
    · exact front marked x member
    · exact back (first.marked marked) x member
  | punctuation => simp
  | leaf depth kind =>
    rintro x (_ | _)
    · exact Node.settled_leaf marked.current.1 marked.current.2
    · contradiction
  | missing s depth =>
    rintro x (_ | _)
    · exact Node.settled_leaf marked.current.1 marked.current.1
    · contradiction
  | @swallow s starts =>
    rintro x (_ | _)
    · exact Node.settled_leaf marked.current.1 ((Reads.swallow starts).marked marked).last
    · contradiction
  | @branch s after forest depth start stop kind inner rule edges levels binds made ih =>
    have below : ∀ c ∈ forest.map Prod.snd, c.Everywhere (Node.Sits mark) := by
      intro c member
      obtain ⟨x, inside, rfl⟩ := List.mem_map.mp member
      exact ih marked x inside
    rintro x (_ | _)
    · refine Node.settled_branch ?_ ?_ below
      · rcases edges.start with same | ⟨c, child, same⟩
        · exact same ▸ marked.current.1
        · exact same ▸ (below c child).top.start
      · rcases edges.stop with same | ⟨c, child, same | same⟩
        · exact same ▸ (inner.marked marked).last
        · exact same ▸ (below c child).top.start
        · exact same ▸ (below c child).top.stop
    · contradiction
  | @list s after parts depth body list inner fits known opens whole ih =>
    rintro x (_ | _)
    · refine Node.settled_branch marked.current.1 (inner.marked marked).last ?_
      have each : ∀ part ∈ parts, part.node.Everywhere (Node.Sits mark) := by
        intro part member
        have inside := ih marked _ (List.mem_map.mpr ⟨part, member, rfl⟩)
        rwa [Part.grown_snd] at inside
      refine everywhere_listChildren list parts each fun before earlier item member => ?_
      have sits := (each _ member).top
      refine Node.sits_branch sits.start sits.stop fun c child => ?_
      rcases List.mem_append.mp child with child | child
      · exact (earlier c (Option.mem_toList.mp child)).2.top
      · rwa [List.mem_singleton.mp child]
    · contradiction
  | @offsetBack s middle expr depth keyword sign length rest operand isExpr next _ _ _ ih =>
    have later := (operand.marked marked).tokens
    rw [next] at later
    simp only [List.mem_cons, forall_eq_or_imp] at later
    obtain ⟨atKeyword, atSign, atLength, -⟩ := later
    have expr_settled := ih marked _ List.mem_cons_self
    rintro x (_ | _)
    · refine Node.settled_branch expr_settled.top.start atLength.2 ?_
      simp only [List.mem_cons, forall_eq_or_imp, List.not_mem_nil, false_implies, implies_true,
        and_true]
      exact ⟨expr_settled, Node.settled_leaf atKeyword.1 atKeyword.2,
        Node.settled_leaf atSign.1 atLength.2⟩
    · contradiction

end Parser

namespace SyntaxTree

/-- The root covers the text, and ranges nest and can be cut out of the text. -/
structure WellFormed (t : SyntaxTree) : Prop where
  root_kind : t.root.kind = .query
  root_start : t.root.start = 0
  root_stop : t.root.stop = t.size
  ordered : ∀ n ∈ t.nodes, n.start ≤ n.stop ∧ n.stop ≤ t.size
  nested : ∀ n ∈ t.nodes, ∀ c ∈ n.children, n.start ≤ c.start ∧ c.stop ≤ n.stop
  boundaries : ∀ n ∈ t.nodes,
    Text.isBoundary t.text n.start = true ∧ Text.isBoundary t.text n.stop = true
  readable : ∀ n ∈ t.nodes, (Text.slice? t.text n.start n.stop).isSome = true

theorem wellFormed_of_settled {t : SyntaxTree} (root_kind : t.root.kind = .query)
    (root_start : t.root.start = 0) (root_stop : t.root.stop = t.size)
    (settled : t.root.Everywhere (Node.Sits fun n => Text.isBoundary t.text n = true)) :
    t.WellFormed where
  root_kind := root_kind
  root_start := root_start
  root_stop := root_stop
  ordered n member :=
    ⟨(settled n member).ordered, Text.le_size_of_isBoundary (settled n member).stop⟩
  nested n member := (settled n member).covers
  boundaries n member := ⟨(settled n member).start, (settled n member).stop⟩
  readable n member := by
    have sits := settled n member
    exact Text.slice?_isSome sits.ordered sits.start sits.stop

end SyntaxTree

namespace Parser

/-- What is read from tokens on boundaries makes a well-formed tree. -/
theorem query_wellFormed {text : Text} {ts : List Token} (placed : Token.OnBoundaries text ts) :
    (SyntaxTree.mk text (query ⟨ts, Text.size text, 0⟩ (Text.size text))).WellFormed := by
  obtain ⟨forest, after, read, -, same, -, -⟩ :=
    query_reads ⟨ts, Text.size text, 0⟩ (Text.size text)
  have marked : (Stream.mk ts (Text.size text) 0).Marked
      (fun n => Text.isBoundary text n = true) :=
    ⟨fun t member => (placed t member).2, Text.isBoundary_size text, Text.isBoundary_zero text⟩
  have below : ∀ c ∈ forest.map Prod.snd,
      c.Everywhere (Node.Sits fun n => Text.isBoundary text n = true) := by
    intro c member
    obtain ⟨x, inside, rfl⟩ := List.mem_map.mp member
    exact read.settled marked x inside
  rw [same]
  refine SyntaxTree.wellFormed_of_settled rfl ?_ ?_ (Node.settled_branch (Text.isBoundary_zero text)
    (Text.isBoundary_size text) below)
  · exact Nat.le_zero.mp (Node.branch_start_le _ _ _ _)
  · refine Nat.le_antisymm ?_ ?_
    · exact Text.le_size_of_isBoundary (Node.settled_branch (Text.isBoundary_zero text)
        (Text.isBoundary_size text) below).top.stop
    · have wide := Node.le_branch_stop .query 0 (Text.size text) (forest.map Prod.snd)
      exact Nat.le_trans (Nat.le_max_left _ _) wide

end Parser

theorem SyntaxTree.parse_wellFormed (text : Text) : (parse text).WellFormed := by
  obtain ⟨ts, -, -, placed, whole, -⟩ := exists_tokens text
  rw [whole]
  exact Parser.query_wellFormed placed

/-- However many of the tokens are read, the tree is well-formed. -/
theorem SyntaxTree.take_wellFormed (text : Text) (count : Nat) :
    (ofTokens ((Token.scan text).take count) text).WellFormed := by
  obtain ⟨ts, -, -, placed, -, firsts⟩ := exists_tokens text
  rw [firsts]
  exact Parser.query_wellFormed fun t member => placed t (List.mem_of_mem_take member)

end MetricQuery
