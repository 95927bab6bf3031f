import MetricQuery.Proofs.Checking
import MetricQuery.Proofs.Place
import MetricQuery.Proofs.WellFormed

/-!
How far a check reaches. Where nothing is found wrong, every selector asks for something and every
call of a known function has a number of arguments that fits, wherever in the tree they stand. Only
what stands in an argument that the check passes over is exempt: in the arguments of an unknown
function, and in those of an aggregation in front of the ones it looks at.
-/

set_option autoImplicit false

namespace MetricQuery

instance (s : Signature) (count : Nat) : Decidable (s.Admits count) :=
  match kind : s.variadic with
  | .fixed => decidable_of_iff (count = s.arguments.length) (by rw [Signature.Admits, kind])
  | .upTo extra =>
    decidable_of_iff (s.arguments.length - 1 ≤ count ∧ count ≤ s.arguments.length - 1 + extra)
      (by rw [Signature.Admits, kind])
  | .unbounded =>
    decidable_of_iff (s.arguments.length - 1 ≤ count) (by rw [Signature.Admits, kind])

/-- Kinds of expressions, and of what stands around expressions. -/
def NodeKind.holdsExpr : NodeKind → Bool
  | .query | .expr | .parenExpr | .aggregateExpr | .binaryExpr | .functionCall | .functionCallBody
  | .functionCallArgs | .matrixSelector | .subqueryExpr | .offsetExpr | .unaryExpr
  | .vectorSelector => true
  | _ => false

/-- Kinds that are checked as expressions. -/
def NodeKind.isExpression (k : NodeKind) : Bool := k == .expr || k.isForm

namespace Rule

/-- Below what holds no expression nothing does. -/
theorem bare_of_mem {k : NodeKind} {kinds : List NodeKind} (rule : Rule k kinds)
    (bare : k.holdsExpr = false) : ∀ c ∈ kinds, c.holdsExpr = false := by
  cases rule with
  | query | queryExpr | expr | aggregateExpr | binaryExpr | functionCall | parenExpr | offsetExpr
  | matrixSelector | subqueryExpr | unaryExpr | vectorSelector => cases bare
  | aggregateOp => simp [NodeKind.holdsExpr]
  | aggregateModifier keywords list =>
    rcases keywords with rfl | rfl <;> rcases list with rfl | rfl <;> simp [NodeKind.holdsExpr]
  | groupingLabel | metricIdentifier | matchOp | error => simp [NodeKind.holdsExpr]
  | binModifiers flag clause both =>
    subst both
    intro c member
    rcases List.mem_append.mp member with member | member
    · rcases flag with rfl | rfl
      · cases member
      · rw [List.mem_singleton.mp member]
        rfl
    · cases clause with
      | absent => cases member
      | clause keywords list rest =>
        rcases List.mem_cons.mp member with rfl | member
        · rcases keywords with rfl | rfl <;> rfl
        rcases List.mem_cons.mp member with rfl | member
        · rcases list with rfl | rfl <;> rfl
        cases rest with
        | absent => cases member
        | bare keyword =>
          rw [List.mem_singleton.mp member]
          rcases keyword with rfl | rfl <;> rfl
        | labels keyword =>
          rcases List.mem_cons.mp member with rfl | member
          · rcases keyword with rfl | rfl <;> rfl
          · rw [List.mem_singleton.mp member]
            rfl
  | functionIdentifier known =>
    rcases known with rfl | ⟨f, rfl⟩ <;> simp [NodeKind.holdsExpr]
  | labelMatcher comparison =>
    rcases comparison with rfl | rfl | rfl | rfl <;> simp [NodeKind.holdsExpr]
  | listStart rule => cases rule <;> simp_all [NodeKind.holdsExpr]
  | listMore rule => cases rule <;> simp_all [NodeKind.holdsExpr]
  | body rule known once =>
    intro c member
    cases rule with
    | arguments => cases bare
    | labels => rcases known c member with rfl | rfl <;> rfl
    | matchers => rcases known c member with rfl | rfl <;> rfl

/-- An expression is of one form. -/
theorem form {kinds : List NodeKind} (rule : Rule .expr kinds) :
    ∃ form, form.isForm = true ∧ kinds = [form] := by
  cases rule with
  | expr isForm => exact ⟨_, isForm, rfl⟩
  | listStart rule | listMore rule | body rule => cases rule

/-- Only the first part of a query holds expressions. -/
theorem whole {children : List Node} (rule : Rule .query (children.map Node.kind)) {c : Node}
    (child : c ∈ children) (holds : c.kind.holdsExpr = true) :
    c.kind = .expr ∧ children.head? = some c := by
  have noError : c.kind ≠ .error := by
    intro same
    simp [same, NodeKind.holdsExpr] at holds
  generalize same : children.map Node.kind = kinds at rule
  cases rule with
  | query errors =>
    have among := List.mem_map_of_mem (f := Node.kind) child
    exact absurd (errors _ (same ▸ among)) noError
  | queryExpr errors =>
    obtain ⟨n, tail, rfl, isExpr, rest⟩ := List.map_eq_cons_iff.mp same
    rcases List.mem_cons.mp child with rfl | later
    · exact ⟨isExpr, rfl⟩
    · have among := List.mem_map_of_mem (f := Node.kind) later
      exact absurd (errors _ (rest ▸ among)) noError
  | listStart rule | listMore rule | body rule => cases rule

/-- What stands around one expression: of the children only that one holds expressions. -/
theorem around {k : NodeKind} {kinds : List NodeKind} (rule : Rule k kinds)
    (kind : k = .parenExpr ∨ k = .matrixSelector ∨ k = .offsetExpr ∨ k = .unaryExpr ∨
      k = .subqueryExpr) :
    kinds.count .expr ≤ 1 ∧ ∀ c ∈ kinds, c = .expr ∨ c.holdsExpr = false := by
  have errors : ∀ tail : List NodeKind, (∀ c ∈ tail, c = .error) →
      tail.count .expr = 0 ∧ ∀ c ∈ tail, c.holdsExpr = false := by
    intro tail all
    refine ⟨List.count_eq_zero.mpr fun member => ?_, fun c member => all c member ▸ rfl⟩
    cases all _ member
  cases rule with
  | parenExpr operand tail =>
    obtain ⟨none, bare⟩ := errors _ tail
    rcases operand with rfl | rfl
    · simpa [none] using fun c member => .inr (bare c member)
    · simpa [none, NodeKind.holdsExpr] using fun c member => .inr (bare c member)
  | offsetExpr duration => rcases duration with rfl | rfl <;> simp [NodeKind.holdsExpr]
  | matrixSelector duration => rcases duration with rfl | rfl <;> simp [NodeKind.holdsExpr]
  | subqueryExpr duration optional =>
    rcases duration with rfl | rfl <;> rcases optional with rfl | rfl | rfl <;>
      simp [NodeKind.holdsExpr]
  | unaryExpr operand => rcases operand with rfl | rfl <;> simp [NodeKind.holdsExpr]
  | listStart rule | listMore rule | body rule => cases rule <;> simp at kind
  | _ => simp at kind

/-- A call has one body, and nothing else in it holds expressions. -/
theorem calls {k : NodeKind} {kinds : List NodeKind} (rule : Rule k kinds)
    (kind : k = .functionCall ∨ k = .aggregateExpr) :
    kinds.count .functionCallBody ≤ 1 ∧
      ∀ c ∈ kinds, c = .functionCallBody ∨ c.holdsExpr = false := by
  cases rule with
  | functionCall => simp [NodeKind.holdsExpr]
  | aggregateExpr list early late =>
    rcases list with rfl | rfl <;> rcases early with rfl | rfl <;>
      rcases late with rfl | rfl | ⟨-, rfl⟩ <;> simp [NodeKind.holdsExpr]
  | listStart rule | listMore rule | body rule => cases rule <;> simp at kind
  | _ => simp at kind

/-- The body of a call and a list in it hold a list each at most; everything else in the body is
an error, and a list ends with its last argument. -/
theorem lists {k : NodeKind} {kinds : List NodeKind} (rule : Rule k kinds)
    (kind : k = .functionCallBody ∨ k = .functionCallArgs) :
    kinds.count .functionCallArgs ≤ 1 ∧
      ((∀ c ∈ kinds, c = .functionCallArgs ∨ c = .error) ∨
        kinds = [.expr] ∨ kinds = [.functionCallArgs, .expr]) := by
  have operands : ∀ item, OperandKind item →
      ((∀ c ∈ [item], c = .functionCallArgs ∨ c = .error) ∨
        [item] = [.expr] ∨ [item] = [.functionCallArgs, .expr]) ∧
      ((∀ c ∈ [.functionCallArgs, item], c = .functionCallArgs ∨ c = .error) ∨
        [.functionCallArgs, item] = [.expr] ∨
          [.functionCallArgs, item] = [NodeKind.functionCallArgs, .expr]) := by
    rintro item (rfl | rfl) <;> simp
  rcases kind with rfl | rfl
  · cases rule with
    | listStart rule | listMore rule => cases rule
    | body rule known once =>
      cases rule
      exact ⟨once, .inl known⟩
  · obtain ⟨item, operand, rfl | rfl⟩ := rule.of_functionCallArgs
    · refine ⟨?_, (operands item operand).1⟩
      rcases operand with rfl | rfl <;> simp
    · refine ⟨?_, (operands item operand).2⟩
      rcases operand with rfl | rfl <;> simp

end Rule

namespace Node

/-- What a selector and a call of a known function are asked for, whatever stands in them. -/
structure Checked (source : Text) (n : Node) : Prop where
  asks : n.kind = .vectorSelector → n.metricNode?.isSome = true ∨
    ∃ m ∈ n.matcherNodes, (Matcher.ofNode source m).matchesEmpty = false
  admits : n.kind = .functionCall → ∀ f, n.calledFunction? = some f →
    f.signature.Admits n.callArguments.length

instance (source : Text) (n : Node) : Decidable (n.Checked source) :=
  decidable_of_iff
    ((n.kind = .vectorSelector → n.metricNode?.isSome = true ∨
        ∃ m ∈ n.matcherNodes, (Matcher.ofNode source m).matchesEmpty = false) ∧
      (n.kind = .functionCall → ∀ f ∈ n.calledFunction?,
        f.signature.Admits n.callArguments.length))
    ⟨fun both => ⟨both.1, both.2⟩, fun checked => ⟨checked.asks, checked.admits⟩⟩

theorem Checked.of_kind {source : Text} {n : Node} (notSelector : n.kind ≠ .vectorSelector)
    (notCall : n.kind ≠ .functionCall) : n.Checked source :=
  ⟨fun same => absurd same notSelector, fun same => absurd same notCall⟩

/-- The check does not look into an argument: the function is unknown, or the argument stands in
front of what an aggregation looks at, the last argument and the parameter before it. -/
def PassesOver (call argument : Node) : Prop :=
  ∃ index, call.callArguments[index]? = some argument ∧
    (call.kind = .functionCall ∧ call.calledFunction? = none ∨
      call.kind = .aggregateExpr ∧ index + 1 < call.callArguments.length ∧
        ((call.aggregator?.bind Aggregator.parameter?).isSome = true →
          index + 2 < call.callArguments.length))

theorem bare_everywhere {n : Node} (lawful : n.Everywhere Lawful)
    (bare : n.kind.holdsExpr = false) : n.Everywhere fun m => m.kind.holdsExpr = false := by
  rw [everywhere_iff]
  refine ⟨bare, fun c child => ?_⟩
  have smaller := sizeOf_lt_of_mem child
  refine bare_everywhere (lawful.child child) ?_
  rcases lawful.top.rule with ⟨none, -⟩ | rule
  · rw [none] at child
    cases child
  · exact rule.bare_of_mem bare c.kind (List.mem_map_of_mem child)
termination_by sizeOf n

end Node

namespace Cursor

variable {source : Text}

/-- A place below `top` stands in an argument that the check passes over. -/
def Overlooks (top c : Cursor) : Prop :=
  ∃ call argument, top.Reaches call ∧ call.Reaches argument ∧ argument.Reaches c ∧
    call.node.PassesOver argument.node

theorem Overlooks.mono {top inner c : Cursor} (way : top.Reaches inner)
    (overlooked : inner.Overlooks c) : top.Overlooks c := by
  obtain ⟨call, argument, toCall, rest⟩ := overlooked
  exact ⟨call, argument, way.trans toCall, rest⟩

/-- The check answers for everything at and below a place, but for what it passes over. -/
def Answers (source : Text) (top : Cursor) : Prop :=
  ∀ c, top.Reaches c → c.node.Checked source ∨ top.Overlooks c

theorem Answers.of_children {top : Cursor} (checked : top.node.Checked source)
    (below : ∀ d ∈ top.children, d.Answers source) : top.Answers source := by
  intro c way
  rcases way.cases_child with rfl | ⟨d, child, lower⟩
  · exact .inl checked
  · exact (below d child c lower).imp_right fun overlooked =>
      overlooked.mono (Reaches.here.down child)

/-- Below what holds no expression there is nothing to ask for. -/
theorem Reaches.checked_of_bare {top c : Cursor} (way : top.Reaches c)
    (lawful : top.node.Everywhere Node.Lawful) (bare : top.node.kind.holdsExpr = false) :
    c.node.Checked source := by
  have none := Node.bare_everywhere lawful bare c.node way.mem_preorder
  apply Node.Checked.of_kind
  · intro same
    simp [same, NodeKind.holdsExpr] at none
  · intro same
    simp [same, NodeKind.holdsExpr] at none

/-- Whatever stands in the body of a call stands in one of the arguments, or is neither a selector
nor a call. -/
theorem reaches_argument {list c : Cursor} (lawful : list.node.Everywhere Node.Lawful)
    (kind : list.node.kind = .functionCallBody ∨ list.node.kind = .functionCallArgs)
    (way : list.Reaches c) :
    c.node.Checked source ∨ ∃ argument, list.Reaches argument ∧ argument.Reaches c ∧
      argument.node.kind = .expr ∧ argument.node ∈ list.node.items .functionCallArgs .expr := by
  rcases way.cases_child with rfl | ⟨d, child, lower⟩
  · left
    apply Node.Checked.of_kind
    · rcases kind with same | same <;> simp [same]
    · rcases kind with same | same <;> simp [same]
  have inside := node_mem_children child
  have smaller := sizeOf_node_lt_of_mem child
  have rule := lawful.top.rule_of_inner (by rcases kind with same | same <;> rw [same] <;> rfl)
  obtain ⟨once, others⟩ := rule.lists kind
  by_cases isList : d.node.kind = .functionCallArgs
  · rcases reaches_argument (lawful.child inside) (.inr isList) lower with
      checked | ⟨argument, toArgument, fromArgument, isExpr, item⟩
    · exact .inl checked
    · refine .inr ⟨argument, (Reaches.here.down child).trans toArgument, fromArgument, isExpr, ?_⟩
      rw [Node.items_eq, Node.child?_of_count once inside isList]
      exact List.mem_append_left _ item
  rcases others with errors | last
  · have isError := (errors _ (List.mem_map_of_mem inside)).resolve_left isList
    exact .inl (lower.checked_of_bare (lawful.child inside) (by rw [isError]; rfl))
  · have isLast : list.node.last? = some d.node ∧ d.node.kind = .expr := by
      rcases last with alone | more
      · obtain ⟨n, children, isExpr⟩ := List.map_eq_singleton_iff.mp alone
        rw [children, List.mem_singleton] at inside
        rw [Node.last?, children, inside]
        exact ⟨rfl, isExpr⟩
      · obtain ⟨m, tail, children, isArgs, rest⟩ := List.map_eq_cons_iff.mp more
        obtain ⟨n, rfl, isExpr⟩ := List.map_eq_singleton_iff.mp rest
        rw [children] at inside
        rcases List.mem_cons.mp inside with same | same
        · exact absurd (same ▸ isArgs) isList
        · rw [List.mem_singleton.mp same, Node.last?, children]
          exact ⟨rfl, isExpr⟩
    refine .inr ⟨d, Reaches.here.down child, lower, isLast.2, ?_⟩
    rw [Node.items_eq, isLast.1]
    refine List.mem_append_right _ (Option.mem_toList.mpr ?_)
    simpa [Option.filter_eq_some_iff] using isLast.2
termination_by sizeOf list.node

section Forms

variable {top : Cursor} (checkable : top.node.Everywhere (Node.Checkable source))

include checkable

/-- Where every expression among the children is answered for, the whole is. -/
theorem Answers.of_exprs (checked : top.node.Checked source)
    (below : ∀ d ∈ top.children, d.node.kind.holdsExpr = true → d.Answers source) :
    top.Answers source := by
  refine .of_children checked fun d child => ?_
  cases holds : d.node.kind.holdsExpr with
  | true => exact below d child holds
  | false =>
    have lawful := (Node.lawful_of_checkable checkable).child (node_mem_children child)
    exact fun c way => .inl (way.checked_of_bare lawful holds)

variable (inside : ∀ d : Cursor, sizeOf d.node < sizeOf top.node →
  d.node.Everywhere (Node.Checkable source) → d.node.kind.isExpression = true →
  d.node.Allowed source → d.Answers source)

include inside

theorem answers_child {d : Cursor} (child : d ∈ top.children)
    (expression : d.node.kind.isExpression = true) (allowed : d.node.Allowed source) :
    d.Answers source :=
  inside d (sizeOf_node_lt_of_mem child) (checkable.child (node_mem_children child)) expression
    allowed

/-- Parentheses, ranges, offsets, signs and subqueries are answered for with what is in them. -/
theorem answers_around
    (kind : top.node.kind = .parenExpr ∨ top.node.kind = .matrixSelector ∨
      top.node.kind = .offsetExpr ∨ top.node.kind = .unaryExpr ∨ top.node.kind = .subqueryExpr)
    (allowed : ∀ inner, top.node.child? .expr = some inner → inner.Allowed source) :
    top.Answers source := by
  have rule := (Node.lawful_of_checkable checkable).top.rule_of_inner (by
    rcases kind with same | same | same | same | same <;> rw [same] <;> rfl)
  obtain ⟨once, others⟩ := rule.around kind
  refine .of_exprs checkable (.of_kind ?_ ?_) fun d child holds => ?_
  · rcases kind with same | same | same | same | same <;> simp [same]
  · rcases kind with same | same | same | same | same <;> simp [same]
  · have among := node_mem_children child
    have isExpr := (others _ (List.mem_map_of_mem among)).resolve_right (by simp [holds])
    exact answers_child checkable inside child (by rw [isExpr]; rfl)
      (allowed d.node (Node.child?_of_count once among isExpr))

theorem answers_binary (kind : top.node.kind = .binaryExpr) (allowed : top.node.Allowed source) :
    top.Answers source := by
  have lawful := Node.lawful_of_checkable checkable
  obtain ⟨left, symbol, modifiers, right, op, parts⟩ := Node.exists_binaryParts lawful.top kind
  obtain ⟨first, last, -⟩ := (Node.allowed_binary_iff kind parts).mp allowed
  have ends : ∀ d ∈ top.node.children, d.kind.holdsExpr = true →
      d.kind = .expr ∧ (d = left ∨ d = right) := by
    intro d member holds
    rw [parts.children] at member
    rcases List.mem_append.mp member with front | back
    · rcases List.mem_cons.mp front with rfl | front
      · exact ⟨parts.isLeft, .inl rfl⟩
      rcases List.mem_cons.mp front with rfl | front
      · simp [parts.isSymbol, NodeKind.holdsExpr] at holds
      · rcases parts.isModifiers with rfl | ⟨m, rfl, isModifiers⟩
        · cases front
        · rw [List.mem_singleton.mp front, isModifiers] at holds
          cases holds
    · obtain rfl := List.mem_singleton.mp back
      refine ⟨?_, .inr rfl⟩
      rcases parts.isRight with isExpr | isError
      · exact isExpr
      · simp [isError, NodeKind.holdsExpr] at holds
  refine .of_exprs checkable (.of_kind (by simp [kind]) (by simp [kind])) fun d child holds => ?_
  obtain ⟨isExpr, same⟩ := ends d.node (node_mem_children child) holds
  refine answers_child checkable inside child (by rw [isExpr]; rfl) ?_
  rcases same with same | same
  · exact same ▸ first
  · exact same ▸ last

/-- A call is answered for where each of its arguments is allowed or passed over. -/
theorem answers_call (kind : top.node.kind = .functionCall ∨ top.node.kind = .aggregateExpr)
    (checked : top.node.Checked source)
    (each : ∀ argument ∈ top.node.callArguments,
      argument.Allowed source ∨ top.node.PassesOver argument) : top.Answers source := by
  have lawful := Node.lawful_of_checkable checkable
  have rule := lawful.top.rule_of_inner (by rcases kind with same | same <;> rw [same] <;> rfl)
  obtain ⟨once, others⟩ := rule.calls kind
  intro c way
  rcases way.cases_child with rfl | ⟨body, child, lower⟩
  · exact .inl checked
  have among := node_mem_children child
  rcases others _ (List.mem_map_of_mem among) with isBody | bare
  · rcases reaches_argument (lawful.child among) (.inl isBody) lower with
      checked | ⟨argument, toArgument, fromArgument, isExpr, item⟩
    · exact .inl checked
    have toArgument := (Reaches.here.down child).trans toArgument
    have member : argument.node ∈ top.node.callArguments := by
      rw [Node.callArguments, Node.at?_singleton, Node.child?_of_count once among isBody]
      exact item
    rcases each argument.node member with allowed | passed
    · have answers := inside argument (Node.sizeOf_callArguments_lt member)
        (checkable.below toArgument.mem_preorder) (by rw [isExpr]; rfl) allowed
      exact (answers c fromArgument).imp_right fun overlooked => overlooked.mono toArgument
    · exact .inr ⟨top, argument, .here, toArgument, fromArgument, passed⟩
  · exact .inl (lower.checked_of_bare (lawful.child among) bare)

end Forms

/-- The arguments of an aggregation that is allowed are allowed or passed over. -/
theorem aggregate_arguments {n : Node} (kind : n.kind = .aggregateExpr)
    (lawful : n.Everywhere Node.Lawful) (allowed : n.Allowed source) :
    ∀ argument ∈ n.callArguments, argument.Allowed source ∨ n.PassesOver argument := by
  rw [Node.Allowed] at allowed
  simp only [kind, exists_prop, Node.arguments_eq lawful] at allowed
  obtain ⟨⟨last, isLast, lastAllowed, -⟩, parameters⟩ := allowed
  intro argument member
  obtain ⟨index, found⟩ := List.mem_iff_getElem?.mp member
  have within := (List.getElem?_eq_some_iff.mp found).1
  rw [List.getLast?_eq_getElem?] at isLast
  by_cases final : index + 1 = n.callArguments.length
  · rw [← final, Nat.add_sub_cancel, found] at isLast
    cases isLast
    exact .inl lastAllowed
  cases wanted : n.aggregator?.bind Aggregator.parameter? with
  | none => exact .inr ⟨index, found, .inr ⟨kind, by omega, by simp [wanted]⟩⟩
  | some want =>
    obtain ⟨parameter, isParameter, parameterAllowed, -⟩ := parameters want wanted
    by_cases before : index + 2 = n.callArguments.length
    · have place : n.callArguments.dropLast.length - 1 = index := by
        rw [List.length_dropLast]
        omega
      rw [List.getLast?_eq_getElem?, place, List.getElem?_dropLast, if_pos (by omega),
        found] at isParameter
      cases isParameter
      exact .inl parameterAllowed
    · exact .inr ⟨index, found, .inr ⟨kind, by omega, fun _ => by omega⟩⟩

/-- The check answers for every expression that is allowed. -/
theorem answers_of_allowed {top : Cursor} (checkable : top.node.Everywhere (Node.Checkable source))
    (expression : top.node.kind.isExpression = true) (allowed : top.node.Allowed source) :
    top.Answers source := by
  have inside : ∀ d : Cursor, sizeOf d.node < sizeOf top.node →
      d.node.Everywhere (Node.Checkable source) → d.node.kind.isExpression = true →
      d.node.Allowed source → d.Answers source :=
    fun d _ checkable expression allowed => answers_of_allowed checkable expression allowed
  cases kind : top.node.kind with
  | expr =>
    rw [Node.Allowed] at allowed
    simp only [kind] at allowed
    have rule := (Node.lawful_of_checkable checkable).top.rule_of_inner (by rw [kind]; rfl)
    rw [kind] at rule
    obtain ⟨form, isForm, only⟩ := rule.form
    obtain ⟨n, children, rfl⟩ := List.map_eq_singleton_iff.mp only
    refine .of_exprs checkable (.of_kind (by simp [kind]) (by simp [kind])) fun d child _ => ?_
    have among := node_mem_children child
    rw [children, List.mem_singleton] at among
    refine answers_child checkable inside child ?_ (allowed d.node ?_)
    · rw [among, NodeKind.isExpression, isForm, Bool.or_true]
    · rw [Node.first?, children, among]
      rfl
  | parenExpr | matrixSelector | offsetExpr =>
    rw [Node.Allowed] at allowed
    simp only [kind] at allowed
    exact answers_around checkable inside (by simp [kind]) allowed
  | unaryExpr | subqueryExpr =>
    rw [Node.Allowed] at allowed
    simp only [kind] at allowed
    obtain ⟨inner, found, clear, -⟩ := allowed
    refine answers_around checkable inside (by simp [kind]) fun other same => ?_
    rw [found] at same
    cases same
    exact clear
  | vectorSelector =>
    rw [Node.Allowed] at allowed
    simp only [kind] at allowed
    have rule := (Node.lawful_of_checkable checkable).top.rule_of_inner (by rw [kind]; rfl)
    rw [kind] at rule
    have selects := (Node.selects_iff kind (Node.lawful_of_checkable checkable)).mp allowed
    refine .of_exprs checkable ⟨fun _ => selects.2, by simp [kind]⟩ fun d child holds => ?_
    have among := List.mem_map_of_mem (f := Node.kind) (node_mem_children child)
    generalize top.node.children.map Node.kind = kinds at rule among
    cases rule with
    | vectorSelector some_part =>
      have bare : d.node.kind = .metricIdentifier ∨ d.node.kind = .labelMatchers := by
        rcases some_part with rfl | rfl | rfl
        · exact .inl (List.mem_singleton.mp among)
        · simpa using among
        · exact .inr (List.mem_singleton.mp among)
      rcases bare with same | same <;> simp [same, NodeKind.holdsExpr] at holds
    | listStart rule | listMore rule | body rule => cases rule
  | aggregateExpr =>
    exact answers_call checkable inside (.inr kind) (.of_kind (by simp [kind]) (by simp [kind]))
      (aggregate_arguments kind (Node.lawful_of_checkable checkable) allowed)
  | binaryExpr =>
    exact answers_binary checkable inside kind allowed
  | functionCall =>
    rw [Node.Allowed] at allowed
    simp only [kind, Node.arguments_eq (Node.lawful_of_checkable checkable)] at allowed
    refine answers_call checkable inside (.inl kind)
      ⟨by simp [kind], fun _ f called => (allowed f (Node.calls_iff.mpr called)).1⟩
      fun argument member => ?_
    obtain ⟨index, found⟩ := List.mem_iff_getElem?.mp member
    cases called : top.node.calledFunction? with
    | none => exact .inr ⟨index, found, .inl ⟨kind, called⟩⟩
    | some f =>
      exact .inl ((allowed f (Node.calls_iff.mpr called)).2 index argument found).1
  | numberLiteral | stringLiteral =>
    have lawful := Node.lawful_of_checkable checkable
    exact fun c way => .inl (way.checked_of_bare lawful (by rw [kind]; rfl))
  | _ => simp [kind, NodeKind.isExpression, NodeKind.isForm] at expression
termination_by sizeOf top.node

end Cursor

namespace SyntaxTree

/-- Where a check finds nothing, every selector has a metric name or a matcher that asks for
something, and every call of a known function has a number of arguments that fits, wherever they
stand but in an argument that the check passes over. -/
theorem check_answers (text : Text) (clear : (parse text).check = []) :
    ∀ c ∈ (parse text).cursors, c.node.Checked text ∨ (parse text).cursor.Overlooks c := by
  have checkable := parse_checkable text
  have rule : Rule .query ((parse text).root.children.map Node.kind) :=
    (parse_lawful text _ (parse text).root.mem_preorder_self).rule_of_inner rfl
  rw [check, stableSort_eq_nil_iff, List.append_eq_nil_iff] at clear
  intro c place
  have isQuery : (parse text).cursor.node.kind = .query := rfl
  have checked : (parse text).cursor.node.Checked text :=
    .of_kind (by simp [isQuery]) (by simp [isQuery])
  refine Cursor.Answers.of_exprs checkable checked (fun d child holds => ?_) c
    (mem_cursors_iff.mp place)
  have among : d.node ∈ (parse text).root.children := Cursor.node_mem_children child
  obtain ⟨isExpr, first⟩ := rule.whole among holds
  have agrees := Node.agrees (checkable.child among)
  have nothing := clear.1
  rw [Node.first?, first] at nothing
  exact Cursor.answers_of_allowed (checkable.child among) (by rw [isExpr]; rfl)
    (agrees.mp nothing)

/-- A parameter and an argument are answered for, and so are the selectors in them. -/
theorem check_answers_nested :
    (parse "topk(scalar(x), rate(y[5m]))".toList).check = [] ∧
      ∀ c ∈ (parse "topk(scalar(x), rate(y[5m]))".toList).cursors,
        c.node.Checked "topk(scalar(x), rate(y[5m]))".toList ∨
          (parse "topk(scalar(x), rate(y[5m]))".toList).cursor.Overlooks c :=
  have clear : (parse "topk(scalar(x), rate(y[5m]))".toList).check = [] := by decide +kernel
  ⟨clear, check_answers _ clear⟩

/-- A selector that asks for nothing and a call without its argument go unnoticed in a call of an
unknown function, and so does such a selector in front of what an aggregation looks at. -/
theorem check_passes_over :
    ((parse "foo(\x7b\x7d)".toList).check = [] ∧
      ∃ n ∈ (parse "foo(\x7b\x7d)".toList).nodes, ¬ n.Checked "foo(\x7b\x7d)".toList) ∧
    ((parse "foo(rate())".toList).check = [] ∧
      ∃ n ∈ (parse "foo(rate())".toList).nodes, ¬ n.Checked "foo(rate())".toList) ∧
    ((parse "sum(\x7b\x7d, a)".toList).check = [] ∧
      ∃ n ∈ (parse "sum(\x7b\x7d, a)".toList).nodes, ¬ n.Checked "sum(\x7b\x7d, a)".toList) := by
  decide +kernel

end SyntaxTree

end MetricQuery
