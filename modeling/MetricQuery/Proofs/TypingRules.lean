import MetricQuery.Proofs.Rule
import MetricQuery.Typing.ValueType

/-!
Which types expressions have, told by the rules alone: one rule for each row of the table of types.
Every node has exactly one type by the rules, and it is the one that is computed.
-/

set_option autoImplicit false

namespace MetricQuery.Node

/-- A call calls a built-in function. -/
def Calls (n : Node) (f : QueryFunction) : Prop :=
  ∃ outer name, n.child? .functionIdentifier = some outer ∧ outer.first? = some name ∧
    name.kind = .function f

/-- An expression has a type. What is missing has no type that is known, and neither has a call of a
function that is not built in. -/
inductive HasType : Option Node → ValueType → Prop
  | missing : HasType none .untyped
  | expr {n : Node} {t : ValueType} (kind : n.kind = .expr) (inner : HasType n.first? t) :
      HasType n t
  | around {n : Node} {t : ValueType}
      (kind : n.kind = .parenExpr ∨ n.kind = .unaryExpr ∨ n.kind = .offsetExpr)
      (inner : HasType (n.child? .expr) t) : HasType n t
  | series {n : Node} (kind : n.kind = .aggregateExpr ∨ n.kind = .vectorSelector) :
      HasType n .vector
  | ranges {n : Node} (kind : n.kind = .matrixSelector ∨ n.kind = .subqueryExpr) :
      HasType n .matrix
  | number {n : Node} (kind : n.kind = .numberLiteral) : HasType n .scalar
  | string {n : Node} (kind : n.kind = .stringLiteral) : HasType n .string
  | scalars {n : Node} (kind : n.kind = .binaryExpr) (left : HasType n.first? .scalar)
      (right : HasType n.last? .scalar) : HasType n .scalar
  | vectors {n : Node} {lt rt : ValueType} (kind : n.kind = .binaryExpr)
      (left : HasType n.first? lt) (right : HasType n.last? rt)
      (others : ¬ (lt = .scalar ∧ rt = .scalar)) : HasType n .vector
  | call {n : Node} {f : QueryFunction} (kind : n.kind = .functionCall) (calls : n.Calls f) :
      HasType n f.signature.result
  | unknown {n : Node} (kind : n.kind = .functionCall) (none : ∀ f, ¬ n.Calls f) :
      HasType n .untyped
  | other {n : Node} (notExpr : n.kind ≠ .expr) (noForm : n.kind.isForm = false) :
      HasType n .untyped

theorem calls_iff {n : Node} {f : QueryFunction} : n.Calls f ↔ n.calledFunction? = some f := by
  rw [Calls, calledFunction?]
  cases n.child? .functionIdentifier with
  | none => simp
  | some outer =>
    cases named : outer.first? with
    | none => simp [named]
    | some name => cases kind : name.kind <;> simp [named, kind]

section Equations

variable {n : Node}

theorem type_expr (kind : n.kind = .expr) : n.type = typeOf? n.first? := by
  obtain ⟨k, start, stop, children⟩ := n
  obtain rfl : k = .expr := kind
  rw [type]
  exact typeOfFirst_eq children

theorem type_around (kind : n.kind = .parenExpr ∨ n.kind = .unaryExpr ∨ n.kind = .offsetExpr) :
    n.type = typeOf? (n.child? .expr) := by
  obtain ⟨k, start, stop, children⟩ := n
  rw [kind_mk] at kind
  rcases kind with rfl | rfl | rfl <;>
  · rw [type]
    exact typeOfExpr_eq children

theorem type_binary (kind : n.kind = .binaryExpr) :
    n.type =
      if typeOf? n.first? = .scalar ∧ typeOf? n.last? = .scalar then .scalar else .vector := by
  obtain ⟨k, start, stop, children⟩ := n
  obtain rfl : k = .binaryExpr := kind
  rw [type, typeOfFirst_eq, typeOfLast_eq]
  rfl

theorem type_call (kind : n.kind = .functionCall) :
    n.type = (n.calledFunction?.map fun f => f.signature.result).getD .untyped := by
  obtain ⟨k, start, stop, children⟩ := n
  obtain rfl : k = .functionCall := kind
  rw [type]
  cases (mk .functionCall start stop children).calledFunction? <;> rfl

theorem type_other (notExpr : n.kind ≠ .expr) (noForm : n.kind.isForm = false) :
    n.type = .untyped := by
  obtain ⟨k, start, stop, children⟩ := n
  cases k <;> first | rfl | exact absurd rfl notExpr | cases noForm

end Equations

/-- What the rules say is what is computed. -/
theorem HasType.eq {o : Option Node} {t : ValueType} (typed : HasType o t) : typeOf? o = t := by
  induction typed with
  | missing => rfl
  | expr kind _ inner => exact (type_expr kind).trans inner
  | around kind _ inner => exact (type_around kind).trans inner
  | @series n kind | @ranges n kind =>
    obtain ⟨k, start, stop, children⟩ := n
    rw [kind_mk] at kind
    rcases kind with rfl | rfl <;> rfl
  | @number n kind | @string n kind =>
    obtain ⟨k, start, stop, children⟩ := n
    rw [kind_mk] at kind
    subst kind
    rfl
  | scalars kind _ _ left right =>
    refine (type_binary kind).trans ?_
    rw [if_pos ⟨left, right⟩]
  | vectors kind _ _ others left right =>
    refine (type_binary kind).trans ?_
    rw [left, right, if_neg others]
  | call kind calls =>
    refine (type_call kind).trans ?_
    rw [calls_iff.mp calls]
    rfl
  | @unknown n kind none =>
    refine (type_call kind).trans ?_
    cases called : n.calledFunction? with
    | none => rfl
    | some f => exact absurd (calls_iff.mpr called) (none f)
  | other notExpr noForm => exact type_other notExpr noForm

/-- The rules give a type to every node. -/
theorem exists_hasType (n : Node) : ∃ t, HasType n t := by
  have inside : ∀ o : Option Node, (∀ c ∈ o, sizeOf c < sizeOf n) → ∃ t, HasType o t := by
    intro o smaller
    cases o with
    | none => exact ⟨_, .missing⟩
    | some c =>
      have below := smaller c rfl
      exact exists_hasType c
  have first := inside n.first? fun _ found => sizeOf_first?_lt found
  cases kind : n.kind with
  | expr => exact first.imp fun _ => .expr kind
  | parenExpr | unaryExpr | offsetExpr =>
    have inner := inside (n.child? .expr) fun _ found => sizeOf_child?_lt found
    exact inner.imp fun _ => .around (by simp [kind])
  | binaryExpr =>
    obtain ⟨lt, left⟩ := first
    obtain ⟨rt, right⟩ := inside n.last? fun _ found => sizeOf_last?_lt found
    by_cases both : lt = .scalar ∧ rt = .scalar
    · obtain ⟨rfl, rfl⟩ := both
      exact ⟨_, .scalars kind left right⟩
    · exact ⟨_, .vectors kind left right both⟩
  | aggregateExpr | vectorSelector => exact ⟨_, .series (by simp [kind])⟩
  | matrixSelector | subqueryExpr => exact ⟨_, .ranges (by simp [kind])⟩
  | numberLiteral => exact ⟨_, .number kind⟩
  | stringLiteral => exact ⟨_, .string kind⟩
  | functionCall =>
    by_cases known : ∃ f, n.Calls f
    · obtain ⟨f, calls⟩ := known
      exact ⟨_, .call kind calls⟩
    · exact ⟨_, .unknown kind (not_exists.mp known)⟩
  | _ => exact ⟨_, .other (by simp [kind]) (by rw [kind]; rfl)⟩
termination_by sizeOf n

/-- The computed type is the one type that a node has by the rules. -/
theorem hasType_iff {n : Node} {t : ValueType} : HasType n t ↔ n.type = t := by
  refine ⟨HasType.eq, ?_⟩
  rintro rfl
  obtain ⟨t, typed⟩ := exists_hasType n
  have same : n.type = t := typed.eq
  rwa [same]

end MetricQuery.Node
