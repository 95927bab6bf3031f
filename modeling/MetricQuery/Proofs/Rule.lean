import MetricQuery.Syntax.Parser
import MetricQuery.Typing.Matching

/-!
The rules a syntax tree obeys: which kinds of children a node has, in which order, where one
expression stands inside another, and how tight the operands of an operator bind.
-/

set_option autoImplicit false

namespace MetricQuery

/-- Kinds of tokens that are read without leaving a node. -/
def Token.Kind.isPunctuation : Token.Kind → Bool
  | .leftParen | .rightParen | .leftBrace | .rightBrace | .leftBracket | .rightBracket
  | .comma | .colon => true
  | _ => false

namespace NodeKind

/-- Kinds of nodes that stand for a token of their own. -/
def isLeaf : NodeKind → Bool
  | .aggregator _ | .keywordBy | .keywordWithout | .labelName | .operator _ | .keywordBool
  | .keywordOn | .keywordIgnoring | .keywordGroupLeft | .keywordGroupRight | .function _
  | .keywordOffset | .unaryOp | .identifier | .matchSymbol _ | .stringLiteral | .numberLiteral
  | .duration | .error => true
  | _ => false

/-- Kinds that hold what stands between brackets, and so may hold nothing. -/
def isContainer : NodeKind → Bool
  | .query | .functionCallBody | .groupingLabels | .labelMatchers => true
  | _ => false

/-- Kinds that hold any number of parts: the whole input, what stands between brackets, and the
lists in there. -/
def isCollection : NodeKind → Bool
  | .query | .functionCallBody | .functionCallArgs | .groupingLabels | .groupingLabelList
  | .labelMatchers | .labelMatchList => true
  | _ => false

/-- Kinds that the one child of an expression may have. -/
def isForm : NodeKind → Bool
  | .numberLiteral | .stringLiteral | .parenExpr | .vectorSelector | .aggregateExpr
  | .functionCall | .matrixSelector | .subqueryExpr | .offsetExpr | .unaryExpr | .binaryExpr => true
  | _ => false

/-- Whether the child at place `index` of `count` is one level deeper than its parent: it was read
as an expression within an expression. -/
def nestsAt (k : NodeKind) (index count : Nat) : Bool :=
  match k with
  | .query | .parenExpr => index == 0
  | .functionCallArgs | .unaryExpr | .binaryExpr => index + 1 == count
  | _ => false

/-- Kinds below which no expression starts a new level. -/
def isFlat : NodeKind → Bool
  | .query | .parenExpr | .functionCallArgs | .unaryExpr | .binaryExpr => false
  | _ => true

@[simp] theorem nestsAt_of_isFlat {k : NodeKind} (flat : k.isFlat = true) (index count : Nat) :
    k.nestsAt index count = false := by
  cases k <;> first | rfl | simp [isFlat] at flat

/-- Kinds that start no level and gather no list. -/
def isPlain (k : NodeKind) : Bool := k.isFlat && !k.isCollection

theorem isPlain_iff {k : NodeKind} :
    k.isPlain = true ↔ k.isFlat = true ∧ k.isCollection = false := by
  rw [isPlain, Bool.and_eq_true, Bool.not_eq_true']

end NodeKind

/-- Kinds of an operand, which is an error when it is missing or nested too deep. -/
def OperandKind (k : NodeKind) : Prop := k = .expr ∨ k = .error

/-- A list production: the node that holds it, the list itself and its items. -/
inductive ListRule : NodeKind → NodeKind → NodeKind → Prop
  | arguments {item : NodeKind} (operand : OperandKind item) :
      ListRule .functionCallBody .functionCallArgs item
  | labels : ListRule .groupingLabels .groupingLabelList .groupingLabel
  | matchers : ListRule .labelMatchers .labelMatchList .labelMatcher

/-- What a group clause consists of; its labels may be left out. -/
inductive GroupRule : List NodeKind → Prop
  | absent : GroupRule []
  | bare {side : NodeKind} (keyword : side = .keywordGroupLeft ∨ side = .keywordGroupRight) :
      GroupRule [side]
  | labels {side : NodeKind} (keyword : side = .keywordGroupLeft ∨ side = .keywordGroupRight) :
      GroupRule [side, .groupingLabels]

/-- What the matching of a binary operator consists of. -/
inductive MatchingRule : List NodeKind → Prop
  | absent : MatchingRule []
  | clause {keyword labels : NodeKind} {group : List NodeKind}
      (keywords : keyword = .keywordOn ∨ keyword = .keywordIgnoring)
      (list : labels = .groupingLabels ∨ labels = .error) (rest : GroupRule group) :
      MatchingRule (keyword :: labels :: group)

/-- The children of a node other than a leaf, by the kind of the node. -/
inductive Rule : NodeKind → List NodeKind → Prop
  | query {tail : List NodeKind} (errors : ∀ k ∈ tail, k = .error) : Rule .query tail
  | queryExpr {tail : List NodeKind} (errors : ∀ k ∈ tail, k = .error) :
      Rule .query (.expr :: tail)
  | expr {form : NodeKind} (isForm : form.isForm = true) : Rule .expr [form]
  | aggregateExpr {before after : List NodeKind} {body : NodeKind}
      (list : body = .functionCallBody ∨ body = .error)
      (early : before = [] ∨ before = [.aggregateModifier])
      (late : after = [] ∨ after = [.error] ∨ before = [] ∧ after = [.aggregateModifier]) :
      Rule .aggregateExpr (.aggregateOp :: before ++ body :: after)
  | aggregateOp (op : Aggregator) : Rule .aggregateOp [.aggregator op]
  | aggregateModifier {keyword labels : NodeKind}
      (keywords : keyword = .keywordBy ∨ keyword = .keywordWithout)
      (list : labels = .groupingLabels ∨ labels = .error) :
      Rule .aggregateModifier [keyword, labels]
  | groupingLabel : Rule .groupingLabel [.labelName]
  | binaryExpr (op : BinaryOp) {modifiers : List NodeKind} {right : NodeKind}
      (optional : modifiers = [] ∨ modifiers = [.binModifiers]) (operand : OperandKind right) :
      Rule .binaryExpr (.expr :: .operator op :: modifiers ++ [right])
  | binModifiers {bool matching children : List NodeKind}
      (flag : bool = [] ∨ bool = [.keywordBool]) (clause : MatchingRule matching)
      (both : children = bool ++ matching) (some_modifier : children ≠ []) :
      Rule .binModifiers children
  | functionCall : Rule .functionCall [.functionIdentifier, .functionCallBody]
  | functionIdentifier {name : NodeKind}
      (known : name = .identifier ∨ ∃ f, name = .function f) : Rule .functionIdentifier [name]
  | parenExpr {inner : NodeKind} {tail : List NodeKind} (operand : OperandKind inner)
      (errors : ∀ k ∈ tail, k = .error) : Rule .parenExpr (inner :: tail)
  | offsetExpr {length : NodeKind} (duration : length = .duration ∨ length = .error) :
      Rule .offsetExpr [.expr, .keywordOffset, length]
  | matrixSelector {length : NodeKind} (duration : length = .duration ∨ length = .error) :
      Rule .matrixSelector [.expr, length]
  | subqueryExpr {length : NodeKind} {step : List NodeKind}
      (duration : length = .duration ∨ length = .error)
      (optional : step = [] ∨ step = [.duration] ∨ step = [.error]) :
      Rule .subqueryExpr (.expr :: length :: step)
  | unaryExpr {inner : NodeKind} (operand : OperandKind inner) : Rule .unaryExpr [.unaryOp, inner]
  | vectorSelector {parts : List NodeKind}
      (some_part : parts = [.metricIdentifier] ∨ parts = [.metricIdentifier, .labelMatchers] ∨
        parts = [.labelMatchers]) : Rule .vectorSelector parts
  | metricIdentifier : Rule .metricIdentifier [.identifier]
  | labelMatcher {tail : List NodeKind}
      (comparison : tail = [.matchOp, .stringLiteral] ∨ tail = [.matchOp, .error] ∨
        tail = [.error] ∨ tail = [.error, .stringLiteral]) : Rule .labelMatcher (.labelName :: tail)
  | matchOp (op : MatchOp) : Rule .matchOp [.matchSymbol op]
  | error : Rule .error [.identifier]
  | listStart {body list item : NodeKind} (rule : ListRule body list item) : Rule list [item]
  | listMore {body list item : NodeKind} (rule : ListRule body list item) : Rule list [list, item]
  | body {body list item : NodeKind} {children : List NodeKind} (rule : ListRule body list item)
      (known : ∀ k ∈ children, k = list ∨ k = .error) (once : children.count list ≤ 1) :
      Rule body children

/-- Only what stands between brackets may be nothing at all. -/
theorem Rule.isContainer_of_nil {k : NodeKind} (rule : Rule k []) : k.isContainer = true := by
  cases rule with
  | query => rfl
  | vectorSelector some_part => simp at some_part
  | binModifiers _ _ _ some_modifier => exact absurd rfl some_modifier
  | body rule => cases rule <;> rfl

/-- Collections and parentheses apart, no node consists of errors alone. -/
theorem Rule.exists_present {k : NodeKind} {kinds : List NodeKind} (rule : Rule k kinds)
    (single : k.isCollection = false) (notParen : k ≠ .parenExpr) : ∃ c ∈ kinds, c ≠ .error := by
  cases rule with
  | query | queryExpr => cases single
  | expr isForm =>
    refine ⟨_, List.mem_cons_self, ?_⟩
    rintro rfl
    cases isForm
  | aggregateExpr => exact ⟨.aggregateOp, by simp, by simp⟩
  | aggregateOp op => exact ⟨.aggregator op, by simp, by simp⟩
  | aggregateModifier keywords =>
    refine ⟨_, List.mem_cons_self, ?_⟩
    rcases keywords with rfl | rfl <;> simp
  | groupingLabel => exact ⟨.labelName, by simp, by simp⟩
  | binaryExpr op => exact ⟨.operator op, by simp, by simp⟩
  | binModifiers flag clause both some_modifier =>
    subst both
    rcases flag with rfl | rfl
    · cases clause with
      | absent => exact absurd rfl some_modifier
      | clause keywords =>
        refine ⟨_, List.mem_cons_self, ?_⟩
        rcases keywords with rfl | rfl <;> simp
    · exact ⟨.keywordBool, by simp, by simp⟩
  | functionCall => exact ⟨.functionIdentifier, by simp, by simp⟩
  | functionIdentifier known =>
    refine ⟨_, List.mem_cons_self, ?_⟩
    rcases known with rfl | ⟨f, rfl⟩ <;> simp
  | parenExpr => exact absurd rfl notParen
  | offsetExpr => exact ⟨.keywordOffset, by simp, by simp⟩
  | matrixSelector => exact ⟨.expr, by simp, by simp⟩
  | subqueryExpr => exact ⟨.expr, by simp, by simp⟩
  | unaryExpr => exact ⟨.unaryOp, by simp, by simp⟩
  | vectorSelector some_part =>
    rcases some_part with rfl | rfl | rfl
    · exact ⟨.metricIdentifier, by simp, by simp⟩
    · exact ⟨.metricIdentifier, by simp, by simp⟩
    · exact ⟨.labelMatchers, by simp, by simp⟩
  | metricIdentifier => exact ⟨.identifier, by simp, by simp⟩
  | labelMatcher => exact ⟨.labelName, by simp, by simp⟩
  | matchOp op => exact ⟨.matchSymbol op, by simp, by simp⟩
  | error => exact ⟨.identifier, by simp, by simp⟩
  | listStart rule | listMore rule | body rule => cases rule <;> cases single

namespace Rule

theorem of_expr {kinds : List NodeKind} (rule : Rule .expr kinds) : ∃ form, kinds = [form] := by
  cases rule with
  | expr => exact ⟨_, rfl⟩
  | listStart rule | listMore rule | body rule => cases rule

theorem of_binaryExpr {kinds : List NodeKind} (rule : Rule .binaryExpr kinds) :
    ∃ op modifiers right, kinds = .expr :: .operator op :: modifiers ++ [right] ∧
      OperandKind right := by
  cases rule with
  | binaryExpr op _ operand => exact ⟨op, _, _, rfl, operand⟩
  | listStart rule | listMore rule | body rule => cases rule

theorem of_unaryExpr {kinds : List NodeKind} (rule : Rule .unaryExpr kinds) :
    ∃ inner, kinds = [.unaryOp, inner] ∧ OperandKind inner := by
  cases rule with
  | unaryExpr operand => exact ⟨_, rfl, operand⟩
  | listStart rule | listMore rule | body rule => cases rule

theorem of_aggregateExpr {kinds : List NodeKind} (rule : Rule .aggregateExpr kinds) :
    ∃ tail, kinds = .aggregateOp :: tail := by
  cases rule with
  | aggregateExpr => exact ⟨_, rfl⟩
  | listStart rule | listMore rule | body rule => cases rule

theorem of_aggregateOp {kinds : List NodeKind} (rule : Rule .aggregateOp kinds) :
    ∃ op, kinds = [.aggregator op] := by
  cases rule with
  | aggregateOp op => exact ⟨op, rfl⟩
  | listStart rule | listMore rule | body rule => cases rule

theorem of_functionCall {kinds : List NodeKind} (rule : Rule .functionCall kinds) :
    kinds = [.functionIdentifier, .functionCallBody] := by
  cases rule with
  | functionCall => rfl
  | listStart rule | listMore rule | body rule => cases rule

theorem of_functionIdentifier {kinds : List NodeKind} (rule : Rule .functionIdentifier kinds) :
    ∃ name, kinds = [name] := by
  cases rule with
  | functionIdentifier => exact ⟨_, rfl⟩
  | listStart rule | listMore rule | body rule => cases rule

theorem of_functionCallBody {kinds : List NodeKind} (rule : Rule .functionCallBody kinds) :
    ∀ k ∈ kinds, k = .functionCallArgs ∨ k = .error := by
  cases rule with
  | listStart rule | listMore rule => cases rule
  | body rule known =>
    cases rule
    exact known

theorem of_functionCallArgs {kinds : List NodeKind} (rule : Rule .functionCallArgs kinds) :
    ∃ item, OperandKind item ∧ (kinds = [item] ∨ kinds = [.functionCallArgs, item]) := by
  cases rule with
  | listStart rule =>
    cases rule with
    | arguments operand => exact ⟨_, operand, .inl rfl⟩
  | listMore rule =>
    cases rule with
    | arguments operand => exact ⟨_, operand, .inr rfl⟩
  | body rule => cases rule

theorem of_vectorSelector {kinds : List NodeKind} (rule : Rule .vectorSelector kinds) :
    (∀ k ∈ kinds, k = .metricIdentifier ∨ k = .labelMatchers) ∧ kinds.Nodup := by
  cases rule with
  | vectorSelector some_part => rcases some_part with rfl | rfl | rfl <;> simp
  | listStart own | listMore own | body own => cases own

theorem of_metricIdentifier {kinds : List NodeKind} (rule : Rule .metricIdentifier kinds) :
    kinds = [.identifier] := by
  cases rule with
  | metricIdentifier => rfl
  | listStart own | listMore own | body own => cases own

theorem of_labelMatcher {kinds : List NodeKind} (rule : Rule .labelMatcher kinds) :
    kinds.count .labelName = 1 := by
  cases rule with
  | labelMatcher comparison => rcases comparison with rfl | rfl | rfl | rfl <;> rfl
  | listStart own | listMore own | body own => cases own

theorem of_matchOp {kinds : List NodeKind} (rule : Rule .matchOp kinds) :
    ∃ op, kinds = [.matchSymbol op] := by
  cases rule with
  | matchOp op => exact ⟨op, rfl⟩
  | listStart rule | listMore rule | body rule => cases rule

theorem of_groupingLabel {kinds : List NodeKind} (rule : Rule .groupingLabel kinds) :
    kinds = [.labelName] := by
  cases rule with
  | groupingLabel => rfl
  | listStart rule | listMore rule | body rule => cases rule

/-- Of the kinds that may be leaves only an error may have children. -/
theorem eq_error_of_isLeaf {k : NodeKind} {kinds : List NodeKind} (rule : Rule k kinds)
    (isLeaf : k.isLeaf = true) : k = .error := by
  cases rule with
  | error => rfl
  | listStart rule | listMore rule | body rule => cases rule <;> cases isLeaf
  | _ => cases isLeaf

end Rule

namespace ListRule

variable {body list item : NodeKind}

theorem of_list (rule : ListRule body list item) {kinds : List NodeKind} (made : Rule list kinds) :
    ∃ last, ListRule body list last ∧ (kinds = [last] ∨ kinds = [list, last]) := by
  cases rule <;>
  · cases made with
    | listStart own =>
      cases own
      exact ⟨_, by constructor <;> assumption, .inl rfl⟩
    | listMore own =>
      cases own
      exact ⟨_, by constructor <;> assumption, .inr rfl⟩
    | body own => cases own

theorem of_body (rule : ListRule body list item) {kinds : List NodeKind} (made : Rule body kinds) :
    (∀ k ∈ kinds, k = list ∨ k = .error) ∧ kinds.count list ≤ 1 := by
  cases rule <;>
  · cases made with
    | listStart own | listMore own => cases own
    | body own known once =>
      cases own
      exact ⟨known, once⟩

theorem ne_list (rule : ListRule body list item) : item ≠ list := by
  cases rule with
  | arguments operand => rcases operand with rfl | rfl <;> simp
  | labels => simp
  | matchers => simp

theorem ne_body (rule : ListRule body list item) : item ≠ body ∧ list ≠ body := by
  cases rule with
  | arguments operand => rcases operand with rfl | rfl <;> simp
  | labels => simp
  | matchers => simp

theorem inner (rule : ListRule body list item) : list.isLeaf = false ∧ body.isLeaf = false := by
  cases rule <;> exact ⟨rfl, rfl⟩

end ListRule

namespace BinaryOp

theorem precedence_le_pow (op : BinaryOp) : op.precedence ≤ BinaryOp.pow.precedence := by
  cases op <;> decide

theorem precedence_lt_pow_iff {op : BinaryOp} :
    op.precedence < BinaryOp.pow.precedence ↔ op ≠ .pow := by
  cases op <;> decide

theorem rightPrecedence_eq (op : BinaryOp) :
    op.rightPrecedence = min (op.precedence + 1) BinaryOp.pow.precedence := by
  cases op <;> rfl

/-- An operator that is left to those before it: it binds no tighter, and is not `^`. -/
theorem lt_rightPrecedence_iff {op next : BinaryOp} :
    next.precedence < op.rightPrecedence ↔ next.precedence ≤ op.precedence ∧ next ≠ .pow := by
  rw [rightPrecedence_eq, ← precedence_lt_pow_iff]
  omega

/-- An operator that the right operand of another may have on top. -/
theorem rightPrecedence_le_iff {op inner : BinaryOp} :
    op.rightPrecedence ≤ inner.precedence ↔
      op.precedence < inner.precedence ∨ op = .pow ∧ inner = .pow := by
  have isPow : ∀ q : BinaryOp, q = .pow ↔ BinaryOp.pow.precedence ≤ q.precedence := by
    intro q
    cases q <;> decide
  have bound := precedence_le_pow op
  have bound' := precedence_le_pow inner
  rw [rightPrecedence_eq, isPow op, isPow inner]
  omega

end BinaryOp

namespace Node

/-- A binary operator on top of the expression binds at least as tight as `least`. -/
def BindsAtLeast (least : Nat) (n : Node) : Prop :=
  ∀ inner ∈ n.children, inner.kind = .binaryExpr →
    ∀ op, inner.operator? = some op → least ≤ op.precedence

/-- An operator that follows the expression may take it as its left operand: what is on top of the
expression binds at least as tight. Where its own operand is an error, nothing is promised. -/
def ClosedBefore (op : BinaryOp) (n : Node) : Prop :=
  ∀ inner ∈ n.children, ∀ operand, inner.last? = some operand → operand.kind ≠ .error →
    (inner.kind = .binaryExpr → ∀ own, inner.operator? = some own →
      op.precedence ≤ own.precedence ∧ op ≠ .pow) ∧
    (inner.kind = .unaryExpr → op ≠ .pow)

/-- The operands of an operator bind as tight as it asks. -/
structure Binds (n : Node) : Prop where
  binary : n.kind = .binaryExpr → ∀ left right op, n.first? = some left → n.last? = some right →
    n.operator? = some op → left.ClosedBefore op ∧ right.BindsAtLeast op.rightPrecedence
  unary : n.kind = .unaryExpr → ∀ operand, n.last? = some operand →
    operand.BindsAtLeast BinaryOp.pow.precedence

theorem binds_of_isFlat {n : Node} (flat : n.kind.isFlat = true) : n.Binds := by
  constructor <;> intro same <;> simp [same, NodeKind.isFlat] at flat

end Node

end MetricQuery
