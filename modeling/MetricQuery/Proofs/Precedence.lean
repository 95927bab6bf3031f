import MetricQuery.Proofs.Lawful

/-!
Precedence and associativity. In a tree without errors no operator stands inside an operand of one
that binds tighter, chains of one precedence group from the left, and only chains of `^` group from
the right.
-/

set_option autoImplicit false

namespace MetricQuery

namespace Node

/-- An expression stands for the one node inside it. -/
structure IsExpr (n inner : Node) : Prop where
  kind : n.kind = .expr
  only : n.children = [inner]

/-- A binary expression joins what is inside its two operands by an operator. -/
structure Joins (n : Node) (op : BinaryOp) (left right : Node) : Prop where
  operator : n.operator? = some op
  operands : ∃ l symbol modifiers r, n.children = l :: symbol :: modifiers ++ [r] ∧
    l.IsExpr left ∧ symbol.kind = .operator op ∧ r.IsExpr right

/-- An operand inside `op` on its left: a chain groups from the left, but never one of `^`, and a
sign does not bind tighter than `^`. -/
structure FitsLeft (op : BinaryOp) (left : Node) : Prop where
  binary : ∀ q, left.kind = .binaryExpr → left.operator? = some q →
    op.precedence ≤ q.precedence ∧ op ≠ .pow
  unary : op = .pow → left.kind ≠ .unaryExpr

/-- An operand inside `op` on its right. -/
def FitsRight (op : BinaryOp) (right : Node) : Prop :=
  ∀ q, right.kind = .binaryExpr → right.operator? = some q →
    op.precedence < q.precedence ∨ op = .pow ∧ q = .pow

end Node

namespace Node

/-- A tree all nodes of which obey the rules and none of which is an error. -/
structure Clean (root : Node) : Prop where
  lawful : ∀ n ∈ root.preorder, n.Lawful
  valid : ∀ n ∈ root.preorder, n.kind ≠ .error

namespace Clean

variable {root n : Node}

theorem operand_kind (clean : root.Clean) (place : n ∈ root.preorder)
    (operand : OperandKind n.kind) :
    n.kind = .expr :=
  operand.resolve_right (clean.valid n place)

theorem isExpr (clean : root.Clean) (place : n ∈ root.preorder) (same : n.kind = .expr) :
    ∃ inner, n.IsExpr inner ∧ inner ∈ root.preorder := by
  have rule := (clean.lawful n place).rule_of_inner (by rw [same]; rfl)
  rw [same] at rule
  obtain ⟨form, kinds⟩ := rule.of_expr
  obtain ⟨inner, only, -⟩ := List.map_eq_singleton_iff.mp kinds
  exact ⟨inner, ⟨same, only⟩, mem_preorder_of_child place (by simp [only])⟩

/-- The last child of an operation is its operand, and not an error. -/
theorem last_operand (clean : root.Clean) (place : n ∈ root.preorder)
    (same : n.kind = .binaryExpr ∨ n.kind = .unaryExpr) :
    ∃ operand, n.last? = some operand ∧ operand.kind ≠ .error := by
  have some_child : n.children ≠ [] := by
    intro none
    rcases same with same | same
    · have rule := (clean.lawful n place).rule_of_inner (by rw [same]; rfl)
      rw [same, none] at rule
      obtain ⟨op, modifiers, right, kinds, -⟩ := rule.of_binaryExpr
      cases kinds
    · have rule := (clean.lawful n place).rule_of_inner (by rw [same]; rfl)
      rw [same, none] at rule
      obtain ⟨inner, kinds, -⟩ := rule.of_unaryExpr
      cases kinds
  obtain ⟨operand, last⟩ := Option.isSome_iff_exists.mp (List.getLast?_isSome.mpr some_child)
  have child := List.mem_of_getLast? last
  exact ⟨operand, last, clean.valid operand (mem_preorder_of_child place child)⟩

theorem fitsLeft (clean : root.Clean) {op : BinaryOp} {l left : Node} (place : left ∈ root.preorder)
    (inside : left ∈ l.children) (closed : l.ClosedBefore op) : FitsLeft op left := by
  constructor
  · intro q same operator
    obtain ⟨operand, last, valid⟩ := clean.last_operand place (.inl same)
    exact (closed left inside operand last valid).1 same q operator
  · intro isPow same
    obtain ⟨operand, last, valid⟩ := clean.last_operand place (.inr same)
    exact (closed left inside operand last valid).2 same isPow

theorem binary (clean : root.Clean) (place : n ∈ root.preorder) (same : n.kind = .binaryExpr) :
    ∃ op left right, n.Joins op left right ∧ FitsLeft op left ∧ FitsRight op right := by
  have rule := (clean.lawful n place).rule_of_inner (by rw [same]; rfl)
  rw [same] at rule
  obtain ⟨op, kinds, kind, whole, operand⟩ := rule.of_binaryExpr
  obtain ⟨front, back, children, front_kinds, back_kinds⟩ := List.map_eq_append_iff.mp whole
  obtain ⟨l, more, rfl, l_kind, more_kinds⟩ := List.map_eq_cons_iff.mp front_kinds
  obtain ⟨symbol, modifiers, rfl, symbol_kind, -⟩ := List.map_eq_cons_iff.mp more_kinds
  obtain ⟨r, rfl, r_kind⟩ := List.map_eq_singleton_iff.mp back_kinds
  have l_place := mem_preorder_of_child place (c := l) (by simp [children])
  have r_place := mem_preorder_of_child place (c := r) (by simp [children])
  obtain ⟨left, l_expr, left_place⟩ := clean.isExpr l_place l_kind
  obtain ⟨right, r_expr, -⟩ := clean.isExpr r_place (clean.operand_kind r_place (r_kind ▸ operand))
  have operator : n.operator? = some op := by
    simp only [operator?, children, List.cons_append, List.findSome?_cons, l_kind, symbol_kind]
  have first : n.first? = some l := by rw [first?, children]; rfl
  have last : n.last? = some r := by rw [last?, children, List.getLast?_concat]
  obtain ⟨closed, tight⟩ := (clean.lawful n place).binds.binary same l r op first last operator
  refine ⟨op, left, right,
    ⟨operator, l, symbol, modifiers, r, children, l_expr, symbol_kind, r_expr⟩,
    clean.fitsLeft left_place (by simp [l_expr.only]) closed, ?_⟩
  intro q binary inner_operator
  exact BinaryOp.rightPrecedence_le_iff.mp
    (tight right (by simp [r_expr.only]) binary q inner_operator)

theorem unary (clean : root.Clean) (place : n ∈ root.preorder) (same : n.kind = .unaryExpr) :
    ∃ sign operand inner, n.children = [sign, operand] ∧ operand.IsExpr inner ∧
      ∀ q, inner.kind = .binaryExpr → inner.operator? = some q → q = .pow := by
  have rule := (clean.lawful n place).rule_of_inner (by rw [same]; rfl)
  rw [same] at rule
  obtain ⟨kind, whole, operand⟩ := rule.of_unaryExpr
  obtain ⟨sign, rest, children, -, rest_kinds⟩ := List.map_eq_cons_iff.mp whole
  obtain ⟨o, rfl, o_kind⟩ := List.map_eq_singleton_iff.mp rest_kinds
  have o_place := mem_preorder_of_child place (c := o) (by simp [children])
  obtain ⟨inner, o_expr, -⟩ := clean.isExpr o_place (clean.operand_kind o_place (o_kind ▸ operand))
  have last : n.last? = some o := by rw [last?, children]; rfl
  have tight := (clean.lawful n place).binds.unary same o last
  refine ⟨sign, o, inner, children, o_expr, fun q binary operator => ?_⟩
  have strong := tight inner (by simp [o_expr.only]) binary q operator
  by_cases isPow : q = .pow
  · exact isPow
  · have weak := BinaryOp.precedence_lt_pow_iff.mpr isPow
    omega

end Clean

end Node

/-- In a tree without errors, operators nest by precedence and group from the left, `^` from the
right; a sign takes only `^` into its operand. -/
theorem SyntaxTree.parse_precedence (text : Text)
    (valid : ∀ n ∈ (parse text).nodes, n.kind ≠ .error) :
    (∀ n ∈ (parse text).nodes, n.kind = .binaryExpr → ∃ op left right, n.Joins op left right ∧
      Node.FitsLeft op left ∧ Node.FitsRight op right) ∧
    (∀ n ∈ (parse text).nodes, n.kind = .unaryExpr → ∃ sign operand inner,
      n.children = [sign, operand] ∧ operand.IsExpr inner ∧
      ∀ q, inner.kind = .binaryExpr → inner.operator? = some q → q = .pow) := by
  have clean : (parse text).root.Clean := ⟨parse_lawful text, valid⟩
  exact ⟨fun n place same => clean.binary place same, fun n place same => clean.unary place same⟩

/-- The tree of `-a^b*c+d` has no errors. -/
theorem SyntaxTree.parse_precedence_mixed :
    (∀ n ∈ (parse "-a^b*c+d".toList).nodes, n.kind ≠ .error) ∧
    (∀ n ∈ (parse "-a^b*c+d".toList).nodes, n.kind = .binaryExpr →
      ∃ op left right, n.Joins op left right ∧ Node.FitsLeft op left ∧ Node.FitsRight op right) :=
  have valid : ∀ n ∈ (parse "-a^b*c+d".toList).nodes, n.kind ≠ .error := by decide +kernel
  ⟨valid, (parse_precedence _ valid).1⟩

end MetricQuery
