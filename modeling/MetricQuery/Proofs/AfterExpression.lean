import MetricQuery.Proofs.Enclosure
import MetricQuery.Proofs.Layout
import MetricQuery.Proofs.TrailingBlanks

/-!
Behind a complete expression. A tree without errors ends with the last token, whatever production
made it, so a position behind blanks at the end of the text is in no node but the root: an operator
may follow there, and an offset if the expression is one that can be moved in time.
-/

set_option autoImplicit false

namespace MetricQuery

/-- A branch reaches no further than it is asked to, or than its children do. -/
theorem Node.branch_stop_le {kind : NodeKind} {start stop bound : Nat} {children : List Node}
    (first : start ≤ bound) (last : stop ≤ bound) (below : ∀ c ∈ children, c.stop ≤ bound) :
    (branch kind start stop children).stop ≤ bound := by
  rcases branch_stop_cases kind start stop children with same | same | ⟨c, child, same⟩
  · omega
  · omega
  · rw [same]
    exact below c child

namespace Parser

/-- What was read last only moves forward. -/
theorem Reads.last_le {s after : Stream} {forest : List Grown} (read : Reads s forest after)
    (order : s.InOrder) : s.last ≤ after.last := by
  obtain ⟨ts, rest, -, last⟩ := read.consumed
  rw [last]
  cases found : ts.getLast? with
  | none => exact Nat.le_refl _
  | some t =>
    have behind := order.last_le
    have bounds := order.bounds (t := t) (by
      rw [rest]
      exact List.mem_append_left _ (List.mem_of_getLast? found))
    rw [Option.map_some, Option.getD_some]
    omega

/-- Without errors, no node reaches beyond the last token that was read for it. -/
theorem Reads.stop_le {s after : Stream} {forest : List Grown} (read : Reads s forest after)
    (order : s.InOrder) (valid : ∀ x ∈ forest, x.2.Valid) :
    ∀ x ∈ forest, x.2.stop ≤ after.last := by
  induction read with
  | done => simp
  | @append s middle after front back first next frontStops backStops =>
    obtain ⟨validFront, validBack⟩ := List.forall_mem_append.mp valid
    have later := first.inOrder order
    have forward := next.last_le later
    intro x member
    rcases List.mem_append.mp member with early | late
    · have stop := frontStops order validFront x early
      omega
    · exact backStops later validBack x late
  | punctuation => simp
  | @leaf s depth kind isLeaf more invalid =>
    have wide := order.current_lt more
    obtain ⟨t, rest, next⟩ := List.exists_cons_of_ne_nil more
    rw [Stream.current_cons next] at wide
    rintro x (_ | _)
    · simp only [Stream.leaf, Node.leaf_stop, Stream.advance_cons next, Stream.current_cons next]
      omega
    · contradiction
  -- What is missing stands at the next token, which may be far off: only validity excludes it.
  | missing s depth => exact absurd rfl (valid _ List.mem_cons_self).kind
  | swallow starts => exact absurd rfl (valid _ List.mem_cons_self).kind
  | @branch s after forest depth start stop kind inner rule edges levels binds made ih =>
    have laid := inner.laid order
    have children := (valid _ List.mem_cons_self).of_branch
    have below : ∀ c ∈ forest.map Prod.snd, c.start ≤ c.stop ∧ c.stop ≤ after.last := by
      intro c child
      refine ⟨(laid.bounds c child).2.1, ?_⟩
      obtain ⟨x, inside, rfl⟩ := List.mem_map.mp child
      exact ih order (fun y among => children y.2 (List.mem_map_of_mem among)) x inside
    -- Parentheses are read themselves; any other branch has a child that is there.
    have passed : s.current.start ≤ after.last := by
      by_cases paren : kind = .parenExpr
      · exact Nat.le_of_lt ((inner.forward order).2 (made.spans paren).2.2)
      · obtain ⟨k, member, -⟩ := rule.exists_present made.single paren
        obtain ⟨x, inside, rfl⟩ := List.mem_map.mp member
        have child := List.mem_map_of_mem (f := Prod.snd) inside
        have bounds := laid.bounds x.2 child
        have stop := below x.2 child
        omega
    rintro x (_ | _)
    · apply Node.branch_stop_le
      · rcases edges.start with same | ⟨c, child, same⟩
        · omega
        · have stop := below c child
          omega
      · rcases edges.stop with same | ⟨c, child, same | same⟩
        · omega
        · have stop := below c child
          omega
        · have stop := below c child
          omega
      · exact fun c child => (below c child).2
    · contradiction
  | @list s after parts depth body list inner fits known opens whole ih =>
    have laid := inner.laid order
    have children := parts_of_valid fits (valid _ List.mem_cons_self).of_branch
    have each : ∀ part ∈ parts, s.current.start ≤ part.node.start ∧
        part.node.start ≤ part.node.stop ∧ part.node.stop ≤ after.last := by
      intro part member
      have inside := List.mem_map_of_mem (f := Part.grown depth (list.nestsAt 0 1)) member
      have child := List.mem_map_of_mem (f := Prod.snd) inside
      have bounds := laid.bounds _ child
      have stop := ih order ?_ _ inside
      · rw [Part.grown_snd] at bounds stop
        exact ⟨bounds.1, bounds.2.1, stop⟩
      · intro x among
        obtain ⟨other, isPart, rfl⟩ := List.mem_map.mp among
        obtain ⟨n, rfl, sound⟩ := children other isPart
        exact sound
    have passed := (inner.forward order).2 opens
    rintro x (_ | _)
    · apply Node.branch_stop_le
      · exact Nat.le_of_lt passed
      · exact Nat.le_refl _
      · exact fun c child => (listChildren_bounds each c child).2.2
    · contradiction
  | @offsetBack s middle expr depth keyword sign length rest operand isExpr next _ _ _ ih =>
    have later := operand.inOrder order
    have below := (valid _ List.mem_cons_self).of_branch expr List.mem_cons_self
    have stop := ih order (by simpa using below) (depth, expr) List.mem_cons_self
    have bounds := (operand.laid order).bounds expr (by simp)
    have behind := later.last_le
    have ordered := later.ordered
    rw [next] at ordered
    obtain ⟨keyword_start, keyword_wide, sign_start, sign_wide, length_start, length_wide, -⟩ :=
      ordered
    rintro x (_ | _)
    · apply Node.branch_stop_le
      · dsimp only at stop ⊢
        omega
      · exact Nat.le_refl _
      · simp only [List.mem_cons, List.not_mem_nil, or_false, forall_eq_or_imp, forall_eq,
          Node.leaf_stop]
        dsimp only at stop
        omega
    · contradiction

/-- A query without errors is one expression, which ends with the last token. -/
theorem query_of_valid {s : Stream} {size : Nat} (order : s.InOrder) {last : Token}
    (final : s.rest.getLast? = some last) (valid : (query s size).Valid) :
    ∃ e, (query s size).children = [e] ∧ e.kind = .expr ∧ e.stop = last.stop := by
  have children : ∀ c ∈ (topExpr s).1 ++ ((topExpr s).2.strays endsNothing).1, c.Valid :=
    valid.of_branch
  have strays := fun n member => children n (List.mem_append_right _ member)
  have finished : (topExpr s).2.rest = [] :=
    (strays_of_valid strays).2.resolve_left (by simp [endsNothing])
  have single : (query s size).children = (topExpr s).1 := by
    change (topExpr s).1 ++ ((topExpr s).2.strays endsNothing).1 = (topExpr s).1
    rw [strays_nil endsNothing finished, List.append_nil]
  rw [single]
  unfold topExpr at children finished ⊢
  by_cases starts : s.startsExpr = true
  · simp only [starts, if_true] at children finished ⊢
    have sound := children _ (List.mem_append_left _ List.mem_cons_self)
    have reads := (expr_subReads maxDepth).reads 0 s starts
    have upper := reads.stop_le order (by simpa using sound) _ List.mem_cons_self
    have lower := (expr_subYields order maxDepth 0 s (.refl s) starts).covers
    obtain ⟨ts, rest, -, stop⟩ := reads.consumed
    rw [finished, List.append_nil] at rest
    rw [← rest, final, Option.map_some, Option.getD_some] at stop
    refine ⟨_, rfl, ?_, ?_⟩
    · rcases (expr_subReads maxDepth).operand 0 s starts with ⟨-, kind⟩ | ⟨none, -⟩
      · exact kind
      · cases none
    · dsimp only at upper
      omega
  · simp only [starts, Bool.false_eq_true, if_false] at finished
    rw [finished] at final
    cases final

end Parser

namespace SyntaxTree

/-- A position that no child of the root covers is in the root itself. -/
theorem resolve_eq_root {t : SyntaxTree} {pos : Nat} {side : Side}
    (outside : ∀ n ∈ t.root.children, side.covers pos n = false) :
    t.resolve pos side = t.cursor := by
  have none : t.cursor.children.find? (fun d => side.covers pos d.node) = none := by
    rw [List.find?_eq_none]
    intro d child
    rw [outside d.node (Cursor.node_mem_children child)]
    exact Bool.false_ne_true
  change t.cursor.descend (side.covers pos) = t.cursor
  rw [Cursor.descend_eq, none]

/-- An expression has a form. -/
theorem exists_form {text : Text} {e : Node} (member : e ∈ (parse text).nodes)
    (kind : e.kind = .expr) : ∃ form, e.first? = some form := by
  have rule := (parse_lawful text e member).rule_of_inner (by rw [kind]; rfl)
  rw [kind] at rule
  obtain ⟨form, single⟩ := rule.of_expr
  obtain ⟨n, only, -⟩ := List.map_eq_singleton_iff.mp single
  exact ⟨n, congrArg List.head? only⟩

/-- Blanks behind the last token leave the shape of a tree alone. -/
theorem parse_append_shape {text w : Text} (ends : Token.EndsAt (Token.scan text) (Text.size text))
    (some : w ≠ []) (blank : ∀ c ∈ w, Text.isBlank c = true) :
    (parse (text ++ w)).root.shape = (parse text).root.shape := by
  have same := Stream.ofText_append_blanks ends some blank
  exact Parser.query_shape ⟨congrArg (List.map Token.kind) same, Stream.ofText_inOrder _,
    Stream.ofText_inOrder _⟩ _ _

end SyntaxTree

theorem Node.valid_of_shape {n m : Node} (same : n.shape = m.shape) (valid : m.Valid) :
    n.Valid := by
  intro c below isError
  have outline := outline_of_shape same
  have listed := List.mem_map_of_mem (f := fun c => (c.kind, c.children.length)) below
  rw [outline] at listed
  obtain ⟨d, above, equal⟩ := List.mem_map.mp listed
  exact valid d above ((congrArg Prod.fst equal).trans isError)

/-- The first children of nodes of one shape are of one shape. -/
theorem Node.exists_first_of_shape {n m c : Node} (same : n.shape = m.shape)
    (first : m.first? = some c) : ∃ d, n.first? = some d ∧ d.shape = c.shape := by
  rw [shape_eq, shape_eq] at same
  injection same with _ children
  have heads := congrArg List.head? children
  rw [List.head?_map, List.head?_map, show m.children.head? = some c from first] at heads
  exact Option.map_eq_some_iff.mp heads

theorem Text.trim_blanks {w : Text} (blank : ∀ c ∈ w, isBlank c = true) : trim w = [] := by
  have dropped : (w ++ []).dropWhile isBlank = [] := List.dropWhile_append_of_pos blank
  rw [List.append_nil] at dropped
  rw [trim, trimBy, dropped]
  rfl

namespace Completion

/-- What may follow an expression of a kind. -/
def following (form : NodeKind) : List ContextKind :=
  if form = .vectorSelector ∨ form = .matrixSelector ∨ form = .subqueryExpr then [.binOp, .offset]
  else [.binOp]

theorem continuation_eq {e form : Node} (kind : e.kind = .expr) (first : e.first? = some form) :
    continuation e = ofKinds (following form.kind) := by
  obtain ⟨k, start, stop, children⟩ := form
  rw [continuation, Node.acceptsOffset, if_pos kind, first]
  cases k <;> rfl

/-- In the root, right behind the only expression and blanks. -/
theorem contexts_behind {source : Text} {c : Cursor} {e : Node} {pos : Nat}
    (root : c.kind = .query) (single : c.node.children = [e]) (kind : e.kind = .expr)
    (before : e.stop ≤ pos) {gap : Text} (found : Text.slice? source e.stop pos = some gap)
    (blank : ∀ x ∈ gap, Text.isBlank x = true) :
    contexts source c pos = continuation e := by
  have ending : c.node.exprBefore? source pos = some e := by
    simp [Node.exprBefore?, single, before, Node.endingExpr?, kind, found, Text.trim_blanks blank]
  simp only [contexts, show c.node.kind = .query from root, insideBrackets, ending]

/-- Behind an expression without errors and blanks, what may follow it is suggested, and nothing of
the text is replaced. -/
theorem analyze_after_expression {text w : Text}
    (ends : Token.EndsAt (Token.scan text) (Text.size text))
    (valid : ∀ n ∈ (SyntaxTree.parse text).nodes, n.kind ≠ .error) (some_blank : w ≠ [])
    (blank : ∀ c ∈ w, Text.isBlank c = true) :
    ∃ form, (SyntaxTree.parse text).root.first?.bind Node.first? = some form ∧
      analyze (.parse (text ++ w)) (Text.size (text ++ w)) = ofKinds (following form.kind) ∧
      replacementStart ((SyntaxTree.parse (text ++ w)).resolve (Text.size (text ++ w)) .before)
        (Text.size (text ++ w)) = Text.size (text ++ w) := by
  have same := Stream.ofText_append_blanks ends some_blank blank
  have shape := SyntaxTree.parse_append_shape ends some_blank blank
  have whole : (SyntaxTree.parse (text ++ w)).root.Valid := Node.valid_of_shape shape valid
  obtain ⟨last, final, reaches, -⟩ := ends
  have wide := Text.size_pos some_blank
  rw [(Stream.ofText_tokens text).1, List.dropLast_concat, ← same] at final
  obtain ⟨e, single, kind, stop⟩ := Parser.query_of_valid (Stream.ofText_inOrder _) final whole
  have size := Text.size_append text w
  -- The expression ends where the blanks begin, so the position is in no child of the root.
  have root : (SyntaxTree.parse (text ++ w)).resolve (Text.size (text ++ w)) .before =
      (SyntaxTree.parse (text ++ w)).cursor := by
    apply SyntaxTree.resolve_eq_root
    intro n child
    have only : n ∈ [e] := single ▸ child
    rw [List.mem_singleton.mp only]
    rw [Side.covers_before_eq_false]
    omega
  have atRoot : (SyntaxTree.parse (text ++ w)).cursor.kind = .query :=
    (SyntaxTree.parse_wellFormed (text ++ w)).root_kind
  have first : (SyntaxTree.parse (text ++ w)).root.first? = some e := congrArg List.head? single
  have member : e ∈ (SyntaxTree.parse (text ++ w)).nodes :=
    Node.mem_preorder_of_mem (List.mem_of_head? first)
  obtain ⟨inner, isInner⟩ := SyntaxTree.exists_form member kind
  obtain ⟨e₀, first₀, shape₀⟩ := Node.exists_first_of_shape shape.symm first
  obtain ⟨form, isForm, formShape⟩ := Node.exists_first_of_shape shape₀ isInner
  have gap : Text.slice? (text ++ w) e.stop (Text.size (text ++ w)) = some w := by
    have found := Text.slice?_append text w []
    rwa [List.append_nil, ← size, ← reaches, ← stop] at found
  refine ⟨form, by rw [first₀]; exact isForm, ?_, ?_⟩
  · have formKind : form.kind = inner.kind := by
      rw [Node.shape_eq inner] at formShape
      exact Node.kind_of_shape formShape
    have behind := contexts_behind atRoot single kind (by omega) gap blank
    rw [analyze, root, formKind, ← continuation_eq kind isInner]
    exact behind
  · rw [root]
    exact (replacementStart_cases _ _).resolve_right fun below => below.1 atRoot

/-- A range without its closing bracket is a complete expression, too. -/
theorem analyze_after_expression_range :
    Token.EndsAt (Token.scan "a + b[5m".toList) 8 ∧
      analyze (.parse ("a + b[5m".toList ++ ['\t', '\n'])) 10 = ofKinds [.binOp] := by
  have ends : Token.EndsAt (Token.scan "a + b[5m".toList) 8 :=
    ⟨⟨.duration "5m", ⟨6, 2⟩⟩, by decide +kernel, rfl, nofun⟩
  obtain ⟨form, isForm, found, -⟩ := analyze_after_expression ends (by decide +kernel)
    (List.cons_ne_nil '\t' ['\n']) (List.all_eq_true.mp (by decide))
  have kind : ((SyntaxTree.parse "a + b[5m".toList).root.first?.bind Node.first?).map Node.kind =
      some .binaryExpr := by decide +kernel
  rw [isForm, Option.map_some, Option.some.injEq] at kind
  rw [kind] at found
  exact ⟨ends, found⟩

theorem following_ne_nil (form : NodeKind) : ofKinds (following form) ≠ [] := by
  unfold following
  split
  · exact List.cons_ne_nil _ _
  · exact List.cons_ne_nil _ _

/-- The last token has to be complete, too: blanks behind a string that still is open are part of
it, and nothing is suggested there. -/
theorem analyze_open_string :
    ¬ ∀ text w : Text,
      (∃ last, (Token.scan text).dropLast.getLast? = some last ∧ last.stop = Text.size text) →
      (∀ n ∈ (SyntaxTree.parse text).nodes, n.kind ≠ .error) → w ≠ [] →
      (∀ c ∈ w, Text.isBlank c = true) →
      ∃ form, (SyntaxTree.parse text).root.first?.bind Node.first? = some form ∧
        analyze (.parse (text ++ w)) (Text.size (text ++ w)) = ofKinds (following form.kind) ∧
        replacementStart ((SyntaxTree.parse (text ++ w)).resolve (Text.size (text ++ w)) .before)
          (Text.size (text ++ w)) = Text.size (text ++ w) := by
  intro always
  obtain ⟨form, -, found, -⟩ := always "\"abc".toList [' ']
    ⟨⟨.string "\"abc" false, ⟨0, 4⟩⟩, by decide +kernel, by decide +kernel⟩ (by decide +kernel)
    (List.cons_ne_nil _ _) (List.all_eq_true.mp (by decide))
  have nothing : analyze (.parse ("\"abc".toList ++ [' '])) 5 = [] := by decide +kernel
  exact following_ne_nil form.kind (found.symm.trans nothing)

end Completion

end MetricQuery
