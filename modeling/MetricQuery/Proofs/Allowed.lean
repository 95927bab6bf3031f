import MetricQuery.Proofs.TypingRules
import MetricQuery.Typing.Check

/-!
Which expressions are allowed, told by the rules alone: what every kind of expression asks of the
expressions inside it and of their types.
-/

set_option autoImplicit false

namespace MetricQuery

namespace Signature

/-- Numbers of arguments that fit: all that are declared, or, where the last one may be left out or
repeated, as many as that leaves. -/
def Admits (s : Signature) (count : Nat) : Prop :=
  match s.variadic with
  | .fixed => count = s.arguments.length
  | .upTo extra => s.arguments.length - 1 ≤ count ∧ count ≤ s.arguments.length - 1 + extra
  | .unbounded => s.arguments.length - 1 ≤ count

/-- The type of an argument: the one declared for its place, or else the last one declared. -/
def typeAt? (s : Signature) (index : Nat) : Option ValueType :=
  s.arguments[index]?.or s.arguments.getLast?

end Signature

/-- The type of the parameter in front of what is aggregated; none where there is no parameter. -/
def Aggregator.parameter? : Aggregator → Option ValueType
  | .topk | .bottomk | .quantile => some .scalar
  | .countValues => some .string
  | _ => none

/-- Operators that compare values. -/
def BinaryOp.comparisons : List BinaryOp := [.eql, .neq, .lte, .lss, .gte, .gtr]

/-- Operators on sets of series. -/
def BinaryOp.setOperators : List BinaryOp := [.and, .or, .unless]

/-- A label stands in the parentheses right behind one of some keywords, among modifiers. -/
def Node.LabelBehind (source : Text) (modifiers : List Node) (keywords : List NodeKind)
    (label : String) : Prop :=
  ∃ keyword labels, [keyword, labels] <:+: modifiers ∧ keyword.kind ∈ keywords ∧
    labels.kind = .groupingLabels ∧
    ∃ name ∈ labels.preorder, name.kind = .labelName ∧ name.text source = label

/-- What a binary operator asks of its modifiers and of the types of its operands. -/
structure BinaryOp.Fits (source : Text) (op : BinaryOp) (modifiers : List Node)
    (left right : ValueType) : Prop where
  operands : (left = .scalar ∨ left = .vector) ∧ (right = .scalar ∨ right = .vector)
  /-- `bool` goes with comparisons only, and a comparison of scalars needs it. -/
  bool_compares : .keywordBool ∈ modifiers.map Node.kind → op ∈ comparisons
  scalars_bool : op ∈ comparisons → left = .scalar → right = .scalar →
    .keywordBool ∈ modifiers.map Node.kind
  /-- No label is matched on and included at once. -/
  labels_apart : .keywordOn ∈ modifiers.map Node.kind → ∀ label,
    Node.LabelBehind source modifiers [.keywordOn, .keywordIgnoring] label →
    ¬ Node.LabelBehind source modifiers [.keywordGroupLeft, .keywordGroupRight] label
  labels_vectors : ∀ label,
    Node.LabelBehind source modifiers [.keywordOn, .keywordIgnoring] label →
    left = .vector ∧ right = .vector
  /-- Set operators work on vectors, and pair them without a group clause. -/
  set_vectors : op ∈ setOperators → left = .vector ∧ right = .vector ∧
    .keywordGroupLeft ∉ modifiers.map Node.kind ∧ .keywordGroupRight ∉ modifiers.map Node.kind

namespace Node

/-- The operator of an aggregation. -/
def aggregator? (n : Node) : Option Aggregator :=
  match ((n.child? .aggregateOp).bind first?).map kind with
  | some (.aggregator op) => some op
  | _ => none

/-- A selector names its metric once at most, and asks for something. -/
structure Selects (source : Text) (n : Node) : Prop where
  once : (∃ c ∈ n.children, c.kind = .metricIdentifier) →
    ∀ m ∈ n.preorder, m.kind = .labelMatcher → (Matcher.ofNode source m).name ≠ "__name__"
  asks : (∃ c ∈ n.children, c.kind = .metricIdentifier) ∨
    ∃ m ∈ n.preorder, m.kind = .labelMatcher ∧ (Matcher.ofNode source m).matchesEmpty = false

mutual

/-- The expressions in a node that stand in no other expression there, in source order. -/
def outermost : Node → List Node
  | mk kind start stop children =>
    if kind = .expr then [mk kind start stop children] else outermostAll children

def outermostAll : List Node → List Node
  | [] => []
  | c :: cs => outermost c ++ outermostAll cs

end

theorem outermost_eq (n : Node) :
    n.outermost = if n.kind = .expr then [n] else n.children.flatMap outermost := by
  have all : ∀ cs, outermostAll cs = cs.flatMap outermost := by
    intro cs
    induction cs with
    | nil => rfl
    | cons c cs ih => rw [outermostAll, ih, List.flatMap_cons]
  obtain ⟨kind, start, stop, children⟩ := n
  rw [outermost, all]
  rfl

theorem sizeOf_outermost_le {c n : Node} (member : c ∈ n.outermost) : sizeOf c ≤ sizeOf n := by
  rw [outermost_eq] at member
  split at member
  · exact Nat.le_of_eq (by rw [List.mem_singleton.mp member])
  · obtain ⟨d, child, inside⟩ := List.mem_flatMap.mp member
    have smaller := sizeOf_lt_of_mem child
    exact Nat.le_trans (sizeOf_outermost_le inside) (Nat.le_of_lt smaller)
termination_by sizeOf n

/-- The arguments of a call: the outermost expressions between its parentheses. -/
def arguments (n : Node) : List Node :=
  ((n.child? .functionCallBody).map outermost).getD []

theorem sizeOf_arguments_lt {c n : Node} (member : c ∈ n.arguments) : sizeOf c < sizeOf n := by
  rw [arguments] at member
  cases found : n.child? .functionCallBody with
  | none => simp [found] at member
  | some body =>
    have inside : c ∈ body.outermost := by simpa [found] using member
    exact Nat.lt_of_le_of_lt (sizeOf_outermost_le inside) (sizeOf_child?_lt found)

/-- Whether an expression is allowed, with everything inside it that has to be. -/
def Allowed (source : Text) (n : Node) : Prop :=
  match n.kind with
  | .expr => ∀ inner, (_h : n.first? = some inner) → inner.Allowed source
  | .parenExpr | .matrixSelector | .offsetExpr =>
    ∀ inner, (_h : n.child? .expr = some inner) → inner.Allowed source
  | .unaryExpr =>
    ∃ inner, ∃ _h : n.child? .expr = some inner,
      inner.Allowed source ∧ (HasType (some inner) .scalar ∨ HasType (some inner) .vector)
  | .subqueryExpr =>
    ∃ inner, ∃ _h : n.child? .expr = some inner, inner.Allowed source ∧ HasType (some inner) .vector
  | .vectorSelector => n.Selects source
  | .aggregateExpr =>
    (∃ last, ∃ _h : n.arguments.getLast? = some last,
      last.Allowed source ∧ HasType (some last) .vector) ∧
    ∀ want, n.aggregator?.bind Aggregator.parameter? = some want →
      ∃ parameter, ∃ _h : n.arguments.dropLast.getLast? = some parameter,
        parameter.Allowed source ∧ HasType (some parameter) want
  | .binaryExpr =>
    ∃ left symbol modifiers right op,
      ∃ _parts : n.children = left :: symbol :: modifiers ++ [right],
        symbol.kind = .operator op ∧ left.Allowed source ∧ right.Allowed source ∧
        ∃ lt rt, HasType (some left) lt ∧ HasType (some right) rt ∧
          op.Fits source (modifiers.flatMap children) lt rt
  | .functionCall =>
    ∀ f, n.Calls f →
      f.signature.Admits n.arguments.length ∧
      ∀ index argument, (_h : n.arguments[index]? = some argument) →
        argument.Allowed source ∧
          ∃ t, f.signature.typeAt? index = some t ∧ HasType (some argument) t
  | _ => True
termination_by sizeOf n
decreasing_by
  all_goals first
    | exact sizeOf_first?_lt ‹_›
    | exact sizeOf_child?_lt ‹_›
    | exact sizeOf_lt_of_mem (by simp [‹n.children = _›])
    | exact sizeOf_arguments_lt (List.mem_of_getLast? ‹_›)
    | exact sizeOf_arguments_lt (List.dropLast_subset _ (List.mem_of_getLast? ‹_›))
    | exact sizeOf_arguments_lt (List.mem_of_getElem? ‹_›)

end Node

end MetricQuery
