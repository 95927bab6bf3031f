import MetricQuery.Proofs.Everywhere
import MetricQuery.Proofs.ReadingExpr
import MetricQuery.Proofs.TokenRange

/-!
How far nodes extend. What is read into a forest stands side by side, from the first token read up
to the next token to be read; a missing node is empty and stands in front of that token, and
everything but an error covers a byte at least.
-/

set_option autoImplicit false

namespace MetricQuery

theorem Token.Ordered.append_right {ts us : List Token} {offset : Nat}
    (ordered : Ordered offset (ts ++ us)) :
    Ordered ((ts.getLast?.map Token.stop).getD offset) us := by
  induction ts generalizing offset with
  | nil => exact ordered
  | cons t ts ih =>
    rw [List.getLast?_cons]
    have rest := ih ordered.2.2
    cases found : ts.getLast? with
    | none => simpa [found] using rest
    | some u => simpa [found] using rest

/-- The tokens left stand one behind another, after what was read and before the end. -/
structure Stream.InOrder (s : Stream) : Prop where
  ordered : Token.Ordered s.last s.rest
  inside : ∀ t ∈ s.rest, t.stop ≤ s.finish
  last : s.last ≤ s.finish

namespace Stream.InOrder

variable {s : Stream}

theorem last_le (order : s.InOrder) : s.last ≤ s.current.start := by
  cases next : s.rest with
  | nil =>
    simp only [Stream.current, next]
    exact order.last
  | cons t rest =>
    have ordered := order.ordered
    rw [next] at ordered
    rw [Stream.current_cons next]
    exact ordered.1

theorem current_lt (order : s.InOrder) (more : s.rest ≠ []) :
    s.current.start < s.current.stop := by
  obtain ⟨t, rest, next⟩ := List.exists_cons_of_ne_nil more
  have ordered := order.ordered
  rw [next] at ordered
  rw [Stream.current_cons next]
  exact ordered.2.1

/-- Every token left starts at the next one or later, and ends before the input does. -/
theorem bounds (order : s.InOrder) {t : Token} (member : t ∈ s.rest) :
    s.current.start ≤ t.start ∧ t.start < t.stop ∧ t.stop ≤ s.finish := by
  have wide := (order.ordered.start_le t member).2
  refine ⟨?_, wide, order.inside t member⟩
  cases next : s.rest with
  | nil =>
    rw [next] at member
    cases member
  | cons u rest =>
    have ordered := order.ordered
    rw [next] at ordered member
    rw [Stream.current_cons next]
    rcases List.mem_cons.mp member with rfl | member
    · exact Nat.le_refl _
    · have later := (ordered.2.2.start_le t member).1
      have first := ordered.2.1
      omega

end Stream.InOrder

/-- The tokens of a text are in order before anything is read. -/
theorem Token.Ordered.inOrder {text : Text} {ts : List Token} (ordered : Ordered 0 ts)
    (placed : OnBoundaries text ts) : (Stream.mk ts (Text.size text) 0).InOrder :=
  ⟨ordered, fun t member => Text.le_size_of_isBoundary (placed t member).2.2, Nat.zero_le _⟩

namespace Parser

theorem Reads.inOrder {s after : Stream} {forest : List Grown} (read : Reads s forest after)
    (order : s.InOrder) : after.InOrder := by
  obtain ⟨ts, rest, finish, last⟩ := read.consumed
  have ordered := order.ordered
  rw [rest] at ordered
  refine ⟨last ▸ ordered.append_right, ?_, ?_⟩
  · intro t member
    rw [finish]
    exact order.inside t (by rw [rest]; exact List.mem_append_right ts member)
  · rw [last, finish]
    cases found : ts.getLast? with
    | none => exact order.last
    | some t =>
      refine order.inside t ?_
      rw [rest]
      exact List.mem_append_left _ (List.mem_of_getLast? found)

/-- Reading goes forward; where it reads anything, it passes the start of the next token. -/
theorem Reads.forward {s after : Stream} {forest : List Grown} (read : Reads s forest after)
    (order : s.InOrder) :
    s.current.start ≤ after.current.start ∧
      (after.rest.length < s.rest.length → s.current.start < after.last) := by
  obtain ⟨ts, rest, finish, last⟩ := read.consumed
  have behind := (read.inOrder order).last_le
  cases found : ts.getLast? with
  | none =>
    obtain rfl := List.getLast?_eq_none_iff.mp found
    have same : s.current = after.current := by
      simp only [Stream.current, finish]
      rw [rest, List.nil_append]
    refine ⟨Nat.le_of_eq (by rw [same]), fun fewer => ?_⟩
    rw [rest] at fewer
    exact absurd fewer (Nat.lt_irrefl _)
  | some t =>
    have bounds := order.bounds (t := t) (by
      rw [rest]
      exact List.mem_append_left _ (List.mem_of_getLast? found))
    have passed : after.last = t.stop := by rw [last, found]; rfl
    omega

end Parser

/-- Nodes side by side between two places, of which only errors may be empty. -/
structure Node.Laid (lower upper : Nat) (ns : List Node) : Prop where
  bounds : ∀ n ∈ ns, lower ≤ n.start ∧ n.start ≤ n.stop ∧ n.stop ≤ upper
  apart : ns.Pairwise fun x y => x.stop ≤ y.start
  wide : ∀ n ∈ ns, n.kind ≠ .error → n.start < n.stop

namespace Node.Laid

theorem nil (lower upper : Nat) : Laid lower upper [] := ⟨by simp, .nil, by simp⟩

theorem one {lower upper : Nat} {n : Node}
    (bounds : lower ≤ n.start ∧ n.start ≤ n.stop ∧ n.stop ≤ upper)
    (wide : n.kind ≠ .error → n.start < n.stop) : Laid lower upper [n] :=
  ⟨by simpa using bounds, List.pairwise_singleton _ _, by simpa using wide⟩

theorem append {lower middle upper : Nat} {front back : List Node}
    (first : Laid lower middle front) (next : Laid middle upper back) (below : lower ≤ middle)
    (above : middle ≤ upper) : Laid lower upper (front ++ back) := by
  refine ⟨?_, ?_, ?_⟩
  · intro n member
    rcases List.mem_append.mp member with member | member
    · have inside := first.bounds n member
      omega
    · have inside := next.bounds n member
      omega
  · refine List.pairwise_append.mpr ⟨first.apart, next.apart, fun x inFront y inBack => ?_⟩
    have left := first.bounds x inFront
    have right := next.bounds y inBack
    omega
  · intro n member
    rcases List.mem_append.mp member with member | member
    · exact first.wide n member
    · exact next.wide n member

/-- A branch stays inside the room that its children and what it asks for stay inside of. -/
theorem branch {lower upper start stop : Nat} {children : List Node} (kind : NodeKind)
    (below : ∀ c ∈ children, lower ≤ c.start ∧ c.start ≤ c.stop ∧ c.stop ≤ upper)
    (first : lower ≤ start ∧ start ≤ upper) (last : stop ≤ upper)
    (wide : start < stop ∨ ∃ c ∈ children, c.start < c.stop) :
    Laid lower upper [.branch kind start stop children] := by
  refine one ⟨?_, branch_start_le_stop kind start stop children, ?_⟩ fun _ => ?_
  · rcases branch_start_cases kind start stop children with same | ⟨c, child, same⟩
    · omega
    · have inside := below c child
      omega
  · rcases branch_stop_cases kind start stop children with same | same | ⟨c, child, same⟩
    · omega
    · omega
    · have inside := below c child
      omega
  · rcases wide with wide | ⟨c, child, wide⟩
    · have lower := branch_start_le kind start stop children
      have upper := le_branch_stop kind start stop children
      omega
    · have lower := branch_start_le_child (k := kind) (a := start) (b := stop) child
      have upper := child_stop_le_branch (k := kind) (a := start) (b := stop) child
      omega

end Node.Laid

/-- A node around others: it starts with one of them and ends with one of them. -/
structure Node.Encloses (n : Node) (items : List Node) : Prop where
  covers : ∀ item ∈ items, n.start ≤ item.start ∧ item.stop ≤ n.stop
  start : ∃ item ∈ items, n.start = item.start
  stop : ∃ item ∈ items, n.stop = item.stop

namespace Parser

/-- A nested list encloses its items. -/
theorem chain_encloses {list : NodeKind} {items : List Node} {n : Node}
    (found : chain list items = some n) (proper : ∀ item ∈ items, item.start ≤ item.stop) :
    n.Encloses items := by
  induction items using List.reverseRecOn generalizing n with
  | nil => cases found
  | append_singleton items item ih =>
    have own := proper item (by simp)
    rw [chain_concat] at found
    obtain rfl := Option.some.inj found
    cases before : chain list items with
    | none =>
      obtain rfl := chain_eq_none before
      have start : (pushItem list none item).start = item.start := Node.wrap_start list item
      have stop : (pushItem list none item).stop = item.stop := Node.wrap_stop list own
      refine ⟨?_, ⟨item, by simp, start⟩, ⟨item, by simp, stop⟩⟩
      simp [start, stop]
    | some inner =>
      have around := ih before fun i member => proper i (List.mem_append_left _ member)
      have start : (pushItem list (some inner) item).start = min inner.start item.start := by
        change min (min item.start inner.start) item.start = _
        omega
      have stop : (pushItem list (some inner) item).stop = max inner.stop item.stop := by
        change max (max (max item.stop item.start) inner.stop) item.stop = _
        omega
      obtain ⟨first, isFirst, first_start⟩ := around.start
      obtain ⟨last, isLast, last_stop⟩ := around.stop
      refine ⟨?_, ?_, ?_⟩
      · intro i member
        rcases List.mem_append.mp member with earlier | same
        · have inside := around.covers i earlier
          omega
        · rw [List.mem_singleton.mp same]
          omega
      · by_cases earlier : inner.start ≤ item.start
        · exact ⟨first, List.mem_append_left _ isFirst, by omega⟩
        · exact ⟨item, by simp, by omega⟩
      · by_cases later : item.stop ≤ inner.stop
        · exact ⟨last, List.mem_append_left _ isLast, by omega⟩
        · exact ⟨item, by simp, by omega⟩

theorem listChildren_proper {list : NodeKind} {parts : List Part}
    (each : ∀ part ∈ parts, part.node.start ≤ part.node.stop) :
    ∀ c ∈ listChildren list parts, c.start ≤ c.stop := by
  intro c child
  rcases mem_listChildren.mp child with isList | isStray
  · have proper : ∀ i ∈ parts.filterMap Part.item?, i.start ≤ i.stop := fun i member =>
      each _ (mem_items.mp member)
    have around := chain_encloses isList proper
    obtain ⟨first, isFirst, start⟩ := around.start
    have reaches := around.covers first isFirst
    have wide := proper first isFirst
    omega
  · exact each _ isStray

/-- What stands between brackets stays inside the room that its parts stay inside of. -/
theorem listChildren_bounds {list : NodeKind} {parts : List Part} {lower upper : Nat}
    (each : ∀ part ∈ parts, lower ≤ part.node.start ∧ part.node.start ≤ part.node.stop ∧
      part.node.stop ≤ upper) :
    ∀ c ∈ listChildren list parts, lower ≤ c.start ∧ c.start ≤ c.stop ∧ c.stop ≤ upper := by
  intro c child
  have proper := listChildren_proper (fun part member => (each part member).2.1) c child
  rcases mem_listChildren.mp child with isList | isStray
  · have around := chain_encloses isList fun i member => (each _ (mem_items.mp member)).2.1
    obtain ⟨first, isFirst, start⟩ := around.start
    obtain ⟨last, isLast, stop⟩ := around.stop
    have atFirst : lower ≤ first.start := (each _ (mem_items.mp isFirst)).1
    have atLast : last.stop ≤ upper := (each _ (mem_items.mp isLast)).2.2
    omega
  · exact each _ isStray

/-- Whatever a range is asked for by, it starts and ends where something was read. -/
theorem Edges.bounds {s after : Stream} {children : List Node} {start stop : Nat}
    (edges : Edges s children after start stop)
    (below : Node.Laid s.current.start after.current.start children)
    (forward : s.current.start ≤ after.current.start) (behind : after.last ≤ after.current.start) :
    (s.current.start ≤ start ∧ start ≤ after.current.start) ∧ stop ≤ after.current.start := by
  constructor
  · rcases edges.start with same | ⟨c, child, same⟩
    · omega
    · have inside := below.bounds c child
      omega
  · rcases edges.stop with same | ⟨c, child, same | same⟩
    · omega
    · have inside := below.bounds c child
      omega
    · have inside := below.bounds c child
      omega

/-- Whatever is read stands between the next token before and the next token after it. -/
theorem Reads.laid {s after : Stream} {forest : List Grown} (read : Reads s forest after)
    (order : s.InOrder) :
    Node.Laid s.current.start after.current.start (forest.map Prod.snd) := by
  have forward := read.forward order
  have behind := (read.inOrder order).last_le
  induction read with
  | done => exact .nil _ _
  | append first next front back =>
    have middle := first.inOrder order
    rw [List.map_append]
    exact (front order (first.forward order) middle.last_le).append
      (back middle (next.forward middle) behind) (first.forward order).1 (next.forward middle).1
  | punctuation => exact .nil _ _
  | @leaf s depth kind isLeaf more invalid =>
    have token := order.current_lt more
    obtain ⟨t, rest, next⟩ := List.exists_cons_of_ne_nil more
    have stop : s.advance.last = s.current.stop := by
      rw [Stream.advance_cons next, Stream.current_cons next]
    refine .one ?_ fun _ => ?_
    · simp only [Stream.leaf, Node.leaf_start, Node.leaf_stop]
      omega
    · simp only [Stream.leaf, Node.leaf_start, Node.leaf_stop]
      omega
  | missing s depth =>
    refine .one ?_ fun present => absurd rfl present
    simp only [Stream.missing, Node.leaf_start, Node.leaf_stop]
    omega
  | @swallow s starts =>
    refine .one ?_ fun present => absurd rfl present
    have stop : s.swallow.1.stop = max s.swallow.2.last s.current.start := rfl
    have start : s.swallow.1.start = s.current.start := rfl
    simp only [start, stop]
    omega
  | @branch s after forest depth start stop kind inner rule edges levels binds made ih =>
    have below := ih order forward behind
    obtain ⟨first, last⟩ := edges.bounds below forward.1 behind
    refine .branch kind below.bounds first last ?_
    by_cases paren : kind = .parenExpr
    · obtain ⟨atStart, atStop, fewer⟩ := made.spans paren
      have passed := forward.2 fewer
      omega
    · obtain ⟨k, member, present⟩ := rule.exists_present made.single paren
      obtain ⟨x, inside, rfl⟩ := List.mem_map.mp member
      have child := List.mem_map_of_mem (f := Prod.snd) inside
      exact .inr ⟨x.2, child, below.wide x.2 child present⟩
  | @list s after parts depth body list inner fits known opens whole ih =>
    have below := ih order forward behind
    refine .branch body (listChildren_bounds fun part member => ?_) ⟨Nat.le_refl _, forward.1⟩
      behind (.inl (forward.2 opens))
    apply below.bounds
    rw [List.map_map]
    exact List.mem_map.mpr ⟨part, member, Part.grown_snd _ _ part⟩
  | @offsetBack s middle expr depth keyword sign length rest operand isExpr next _ _ _ ih =>
    have later := operand.inOrder order
    have below := ih order (operand.forward order) later.last_le
    have ordered := later.ordered
    rw [next] at ordered
    have keyword_start := ordered.1
    have keyword_wide := ordered.2.1
    have sign_start := ordered.2.2.1
    have sign_wide := ordered.2.2.2.1
    have length_start := ordered.2.2.2.2.1
    have length_wide := ordered.2.2.2.2.2.1
    have expr_inside := below.bounds expr (by simp)
    have expr_wide := below.wide expr (by simp) (by simp [isExpr])
    have current := Stream.current_cons next
    rw [current] at expr_inside
    change length.stop ≤ _ at behind
    refine .branch .offsetExpr ?_ ⟨by omega, ?_⟩ behind (.inr ⟨expr, by simp, expr_wide⟩)
    · simp only [List.mem_cons, List.not_mem_nil, or_false, forall_eq_or_imp, forall_eq,
        Node.leaf_start, Node.leaf_stop]
      omega
    · omega

end Parser

/-- A leaf that is not an error stands for a token, which has text. -/
def Node.Solid (n : Node) : Prop := n.kind.isLeaf = true → n.kind ≠ .error → n.start < n.stop

namespace Parser

theorem solid_of_rule {n : Node} {kinds : List NodeKind} (rule : Rule n.kind kinds) : n.Solid :=
  fun isLeaf present => absurd (rule.eq_error_of_isLeaf isLeaf) present

/-- Whatever is read from tokens in order has solid leaves. -/
theorem Reads.solid {s after : Stream} {forest : List Grown} (read : Reads s forest after)
    (order : s.InOrder) : ∀ x ∈ forest, x.2.Everywhere Node.Solid := by
  have laid := read.laid order
  induction read with
  | done => simp
  | append first next front back =>
    intro x member
    rcases List.mem_append.mp member with member | member
    · exact front order (first.laid order) x member
    · exact back (first.inOrder order) (next.laid (first.inOrder order)) x member
  | punctuation => simp
  | leaf | missing | swallow =>
    rintro x (_ | _)
    · exact Node.everywhere_leaf fun _ present => laid.wide _ List.mem_cons_self present
    · contradiction
  | @branch s after forest depth start stop kind inner rule edges levels binds made ih =>
    rintro x (_ | _)
    · refine Node.everywhere_branch (solid_of_rule rule) fun c child => ?_
      obtain ⟨x, inside, rfl⟩ := List.mem_map.mp child
      exact ih order (inner.laid order) x inside
    · contradiction
  | @list s after parts depth body list inner fits known opens whole ih =>
    obtain ⟨item, rule⟩ := known
    have each : ∀ part ∈ parts, part.node.Everywhere Node.Solid := by
      intro part member
      have inside := ih order (inner.laid order) _ (List.mem_map.mpr ⟨part, member, rfl⟩)
      rwa [Part.grown_snd] at inside
    have bare : Rule body [] := .body rule (by simp) (by simp)
    rintro x (_ | _)
    · refine Node.everywhere_branch (solid_of_rule bare) ?_
      exact everywhere_listChildren list parts each fun before earlier item member =>
        solid_of_rule (.listStart rule)
    · contradiction
  | @offsetBack s middle expr depth keyword sign length rest operand isExpr next _ _ _ ih =>
    have ordered := (operand.inOrder order).ordered
    rw [next] at ordered
    have keyword_wide := ordered.2.1
    have sign_start := ordered.2.2.1
    have sign_wide := ordered.2.2.2.1
    have length_start := ordered.2.2.2.2.1
    have length_wide := ordered.2.2.2.2.2.1
    rintro x (_ | _)
    · refine Node.everywhere_branch (solid_of_rule (.offsetExpr (.inl rfl))) ?_
      simp only [List.mem_cons, forall_eq_or_imp, List.not_mem_nil, false_implies, implies_true,
        and_true]
      refine ⟨ih order (operand.laid order) _ List.mem_cons_self,
        Node.everywhere_leaf fun _ _ => ?_, Node.everywhere_leaf fun _ _ => ?_⟩
      · simp only [Node.leaf_start, Node.leaf_stop]
        omega
      · simp only [Node.leaf_start, Node.leaf_stop]
        omega
    · contradiction

end Parser

namespace SyntaxTree

/-- What holds of all that is read from tokens in order, and of a root over it, holds of every node
of the tree of a text. -/
theorem forall_nodes_parse {P : Node → Prop} (text : Text)
    (root : ∀ s forest after, Parser.Reads s forest after → s.InOrder →
      Rule .query (forest.map fun x => x.2.kind) →
      P (.branch .query 0 (Text.size text) (forest.map Prod.snd)))
    (below : ∀ s forest after, Parser.Reads s forest after → s.InOrder →
      ∀ x ∈ forest, x.2.Everywhere P) :
    ∀ n ∈ (parse text).nodes, P n := by
  obtain ⟨ts, -, ordered, placed, whole, -⟩ := exists_tokens text
  obtain ⟨forest, after, read, -, same, -, rule⟩ :=
    Parser.query_reads ⟨ts, Text.size text, 0⟩ (Text.size text)
  have order := ordered.inOrder placed
  rw [whole, same]
  refine Node.everywhere_branch (root _ forest after read order rule) fun c child => ?_
  obtain ⟨x, inside, rfl⟩ := List.mem_map.mp child
  exact below _ forest after read order x inside

theorem parse_solid (text : Text) : ∀ n ∈ (parse text).nodes, n.Solid :=
  forall_nodes_parse text (fun _ _ _ _ _ rule => Parser.solid_of_rule rule)
    fun _ _ _ read order => read.solid order

end SyntaxTree

end MetricQuery
