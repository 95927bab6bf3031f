import MetricQuery.Proofs.Extent
import MetricQuery.Proofs.Modifiers

/-!
The check finds nothing exactly where the rules allow everything.
-/

set_option autoImplicit false

namespace MetricQuery

theorem stableSort_eq_nil_iff {α : Type} {le : α → α → Bool} {as : List α} :
    stableSort le as = [] ↔ as = [] := by
  rw [← List.length_eq_zero_iff, length_stableSort, List.length_eq_zero_iff]

theorem ValueType.isOperand_iff {t : ValueType} :
    t.isOperand = true ↔ t = .scalar ∨ t = .vector := by
  cases t <;> decide

namespace BinaryOp

theorem isComparison_iff {op : BinaryOp} : op.isComparison = true ↔ op ∈ comparisons := by
  cases op <;> decide

theorem isSetOperator_iff {op : BinaryOp} : op.isSetOperator = true ↔ op ∈ setOperators := by
  cases op <;> decide

end BinaryOp

/-- What holds of the pairs of two lists holds at each place that both have. -/
theorem forall_mem_zip_attach {α β : Type} (as : List α) (bs : List β) (P : α → β → Prop) :
    (∀ x ∈ as.attach.zip bs, P x.1.1 x.2) ↔
      ∀ (i : Nat) a b, as[i]? = some a → bs[i]? = some b → P a b := by
  have vals : ∀ i : Nat, as[i]? = (as.attach[i]?).map Subtype.val := by
    intro i
    rw [← List.getElem?_map, List.attach_map_subtype_val]
  constructor
  · intro each i a b first second
    rw [vals, Option.map_eq_some_iff] at first
    obtain ⟨x, found, rfl⟩ := first
    exact each (x, b) (List.mem_of_getElem? (List.getElem?_zip_eq_some.mpr ⟨found, second⟩))
  · rintro each ⟨x, b⟩ among
    obtain ⟨i, found⟩ := List.mem_iff_getElem?.mp among
    rw [List.getElem?_zip_eq_some] at found
    refine each i x.1 b ?_ found.2
    rw [vals, found.1]
    rfl

namespace Signature

theorem arityFault?_eq_none_iff {s : Signature} {count : Nat} :
    s.arityFault? count = none ↔ s.Admits count := by
  unfold arityFault? Admits
  cases s.variadic with
  | fixed => simp
  | upTo extra =>
    by_cases few : count < s.arguments.length - 1
    · simp only [few, ↓reduceIte, reduceCtorEq, false_iff, not_and]
      omega
    · simp only [few, ↓reduceIte, ite_eq_right_iff, reduceCtorEq, imp_false]
      omega
  | unbounded => simp

/-- Where the number of arguments fits, each of them has a type that is wanted of it. -/
theorem getElem?_wanted {s : Signature} (declared : s.arguments = [] → s.variadic = .fixed)
    {count index : Nat} (admits : s.Admits count) (within : index < count) :
    (s.wanted count)[index]? = s.typeAt? index ∧ (s.typeAt? index).isSome = true := by
  unfold Admits at admits
  unfold wanted typeAt?
  cases last : s.arguments.getLast? with
  | none =>
    have none := List.getLast?_eq_none_iff.mp last
    rw [declared none] at admits
    simp only [none, List.length_nil] at admits
    omega
  | some final =>
    by_cases inside : index < s.arguments.length
    · have found : s.arguments[index]? = some s.arguments[index] := List.getElem?_eq_getElem inside
      have taken : (s.arguments.take count)[index]? = some s.arguments[index] := by
        rw [List.getElem?_take_of_lt within, found]
      have front : index < (s.arguments.take count).length := by
        rw [List.length_take]
        omega
      cases s.variadic <;> simp [found, taken, List.getElem?_append_left front]
    · have absent : s.arguments[index]? = none := List.getElem?_eq_none (by omega)
      have taken : (s.arguments.take count).length = s.arguments.length := by
        rw [List.length_take]
        omega
      have repeated : (s.arguments.take count ++
          List.replicate (count - s.arguments.length) final)[index]? = some final := by
        rw [List.getElem?_append_right (by omega), taken]
        exact List.getElem?_replicate_of_lt (by omega)
      cases kind : s.variadic with
      | fixed =>
        rw [kind] at admits
        omega
      | upTo extra => simp [absent, repeated]
      | unbounded => simp [absent, repeated]

end Signature

theorem QueryFunction.variadic_of_nil (f : QueryFunction) (none : f.signature.arguments = []) :
    f.signature.variadic = .fixed := by
  cases f <;> first | rfl | cases none

section Complaints

variable {p : Prop} [Decidable p] {d : Diagnostic}

theorem unless_eq_nil_iff : (if p then [] else [d]) = [] ↔ p := by
  split <;> simp_all

theorem when_eq_nil_iff : (if p then [d] else []) = [] ↔ ¬ p := by
  split <;> simp_all

end Complaints

namespace Node

/-- A complaint about `bool` where it does not belong or is missing. -/
theorem bool_eq_nil_iff {bool : Prop} [Decidable bool] {compares : Bool} {lt rt : ValueType}
    {d e : Diagnostic} :
    (if bool then if compares = true then [] else [d]
      else if (compares && lt == .scalar && rt == .scalar) = true then [e] else []) = [] ↔
      (bool → compares = true) ∧
        (compares = true → lt = .scalar → rt = .scalar → bool) := by
  by_cases used : bool <;> cases compares <;> simp [used]

theorem mismatch_eq_nil_iff {n : Node} {want : ValueType} {place : String} :
    n.mismatch want place = [] ↔ n.type = want := by
  unfold mismatch
  split <;> simp_all

theorem sharedLabels_eq_nil_iff {m : Matching} :
    sharedLabels m = [] ↔ (m.on = true → ∀ l ∈ m.labels, l ∉ m.included) := by
  unfold sharedLabels
  split
  · rename_i on
    simp only [List.flatMap_eq_nil_iff, List.map_eq_nil_iff, List.filter_eq_nil_iff, on,
      beq_iff_eq, true_implies]
    constructor
    · intro apart l matched included
      exact apart l matched l included rfl
    · rintro apart l matched k included rfl
      exact apart k matched included
  · simp_all

/-- The matching of a binary expression finds nothing wrong where labels and set operators meet
vectors only, and set operators no group clause. -/
theorem matchingProblems_eq_nil_iff {source : Text} (n : Node) {op : BinaryOp} {lt rt : ValueType}
    {modifiers : List Node} {m : Matching} (read : m.Reads source modifiers)
    (left : lt = .scalar ∨ lt = .vector) (right : rt = .scalar ∨ rt = .vector) :
    matchingProblems n
        (some
          (if op.isSetOperator && m.card == .oneToOne then { m with card := .manyToMany } else m))
        op.isSetOperator lt rt = [] ∧
      ((lt == .scalar || rt == .scalar) && op.isSetOperator) = false ↔
    (∀ label, Node.LabelBehind source modifiers [.keywordOn, .keywordIgnoring] label →
      lt = .vector ∧ rt = .vector) ∧
    (op ∈ BinaryOp.setOperators → lt = .vector ∧ rt = .vector ∧
      .keywordGroupLeft ∉ modifiers.map Node.kind ∧
      .keywordGroupRight ∉ modifiers.map Node.kind) := by
  have card := read.card
  have labels : (∀ label, Node.LabelBehind source modifiers [.keywordOn, .keywordIgnoring] label →
      lt = .vector ∧ rt = .vector) ↔ (m.labels ≠ [] → lt = .vector ∧ rt = .vector) := by
    constructor
    · intro each nonempty
      obtain ⟨label, member⟩ := List.exists_mem_of_ne_nil m.labels nonempty
      exact each label ((read.labels label).mp member)
    · exact fun fit label behind => fit (List.ne_nil_of_mem ((read.labels label).mpr behind))
  rw [labels, ← BinaryOp.isSetOperator_iff]
  generalize (.keywordGroupLeft ∉ modifiers.map Node.kind ∧
    .keywordGroupRight ∉ modifiers.map Node.kind) = bare at card ⊢
  by_cases vectors : lt = .vector ∧ rt = .vector
  · obtain ⟨rfl, rfl⟩ := vectors
    cases isSet : op.isSetOperator with
    | false => simp [matchingProblems]
    | true =>
      by_cases single : m.card = .oneToOne
      · simp [matchingProblems, single, card.2.mp single]
      · have grouped : ¬ bare := mt card.2.mpr single
        simp [matchingProblems, single, grouped, card.1]
  · have scalar : (lt == .scalar || rt == .scalar) = true := by
      rcases left with rfl | rfl <;> rcases right with rfl | rfl <;> simp_all
    have apart : lt ≠ .vector ∨ rt ≠ .vector := not_and_or.mp vectors
    cases isSet : op.isSetOperator with
    | false => simp [matchingProblems, apart, vectors]
    | true =>
      have unfit : ¬ (lt = .vector ∧ rt = .vector ∧ bare) := fun fit => vectors ⟨fit.1, fit.2.1⟩
      simp [scalar, unfit]

/-- Nothing is wrong with a binary expression itself where its operator fits. -/
theorem binaryProblems_eq_nil_iff {source : Text} {n left symbol right : Node}
    {modifiers : List Node} {op : BinaryOp}
    (parts : n.BinaryParts left symbol modifiers right op) (lawful : n.Everywhere Lawful) :
    binaryProblems source n left right = [] ↔
      op.Fits source (modifiers.flatMap Node.children) left.type right.type := by
  have read := Matching.ofModifiers_reads source parts lawful
  have bool : (n.walk [.binModifiers, .keywordBool]).isFound = true ↔
      .keywordBool ∈ (modifiers.flatMap Node.children).map Node.kind := parts.hasModifier_iff _
  generalize matched : Matching.ofModifiers source (n.child? .binModifiers) = m at read
  have whole : Matching.ofBinary? source n =
      some (if op.isSetOperator && m.card == .oneToOne then { m with card := .manyToMany }
        else m) := by
    rw [Matching.ofBinary?, parts.operator?_eq, Option.map_some, matched]
  have shared : sharedLabels (if op.isSetOperator && m.card == .oneToOne then
      { m with card := .manyToMany } else m) = sharedLabels m := by
    split <;> rfl
  have apart : sharedLabels m = [] ↔
      (.keywordOn ∈ (modifiers.flatMap Node.children).map Node.kind → ∀ label,
        LabelBehind source (modifiers.flatMap Node.children) [.keywordOn, .keywordIgnoring] label →
        ¬ LabelBehind source (modifiers.flatMap Node.children)
          [.keywordGroupLeft, .keywordGroupRight] label) := by
    rw [sharedLabels_eq_nil_iff, read.on]
    simp only [read.labels, read.included]
  unfold binaryProblems
  simp only [parts.operator?_eq, Option.map_some, Option.getD_some, whole, shared,
    List.append_eq_nil_iff, List.map_eq_nil_iff, apart, unless_eq_nil_iff, when_eq_nil_iff,
    bool_eq_nil_iff, Bool.not_eq_true, ValueType.isOperand_iff]
  rw [bool, BinaryOp.isComparison_iff]
  constructor
  · rintro ⟨⟨⟨⟨⟨bools, apart⟩, leftFits⟩, rightFits⟩, matching⟩, sets⟩
    have pairs := (matchingProblems_eq_nil_iff n read leftFits rightFits).mp ⟨matching, sets⟩
    exact ⟨⟨leftFits, rightFits⟩, bools.1, bools.2, apart, pairs.1, pairs.2⟩
  · intro fits
    have pairs := (matchingProblems_eq_nil_iff n read fits.operands.1 fits.operands.2).mpr
      ⟨fits.labels_vectors, fits.set_vectors⟩
    exact ⟨⟨⟨⟨⟨⟨fits.bool_compares, fits.scalars_bool⟩, fits.labels_apart⟩, fits.operands.1⟩,
      fits.operands.2⟩, pairs.1⟩, pairs.2⟩

/-- A node obeys the rules of the tree, and a name has text. -/
structure Checkable (source : Text) (n : Node) : Prop where
  orderly : n.Orderly
  named : n.kind = .identifier → (n.text source).isEmpty = false

theorem lawful_of_checkable {source : Text} {n : Node}
    (checkable : n.Everywhere (Checkable source)) : n.Everywhere Lawful :=
  fun m member => (checkable m member).orderly.lawful

theorem metricNode?_text {source : Text} {n name : Node}
    (checkable : n.Everywhere (Checkable source)) (found : n.metricNode? = some name) :
    (name.text source).isEmpty = false := by
  rw [metricNode?, at?_cons, Option.bind_eq_some_iff] at found
  obtain ⟨metric, isMetric, inside⟩ := found
  rw [at?_singleton] at inside
  have below := (checkable.child (mem_children_of_child? isMetric)).child
    (mem_children_of_child? inside)
  exact below.top.named (kind_of_child? inside)

theorem someNonEmpty_eq_true_iff {matchers : List Matcher} :
    Matcher.someNonEmpty matchers = true ↔ ∃ m ∈ matchers, m.matchesEmpty = false := by
  simp [Matcher.someNonEmpty]

/-- What a selector names and asks for, read off the nodes that the check looks at. -/
theorem selects_iff {source : Text} {n : Node} (kind : n.kind = .vectorSelector)
    (lawful : n.Everywhere Lawful) :
    n.Selects source ↔
      (n.metricNode?.isSome = true →
        ∀ m ∈ n.matcherNodes, (Matcher.ofNode source m).name ≠ "__name__") ∧
      (n.metricNode?.isSome = true ∨
        ∃ m ∈ n.matcherNodes, (Matcher.ofNode source m).matchesEmpty = false) := by
  simp only [metricNode?_isSome_iff lawful kind, mem_matcherNodes_iff lawful kind, and_imp,
    and_assoc]
  exact ⟨fun selects => ⟨selects.once, selects.asks⟩, fun both => ⟨both.1, both.2⟩⟩

/-- Nothing is wrong with a selector that names its metric once at most and asks for something. -/
theorem selectorProblems_eq_nil_iff {source : Text} {n : Node} (kind : n.kind = .vectorSelector)
    (checkable : n.Everywhere (Checkable source)) :
    selectorProblems source n = [] ↔ n.Selects source := by
  rw [selects_iff kind (lawful_of_checkable checkable)]
  unfold selectorProblems
  cases found : n.metricNode? with
  | none =>
    have blank : "".isEmpty = true := rfl
    simp only [Option.map_none, Option.getD_none, blank, ↓reduceIte,
      List.nil_append, unless_eq_nil_iff, someNonEmpty_eq_true_iff, List.mem_map,
      exists_exists_and_eq_and]
    constructor
    · intro asks
      exact ⟨by simp, .inr asks⟩
    · intro selects
      exact selects.2.resolve_left (by simp)
  | some name =>
    have text := metricNode?_text checkable found
    have asks : Matcher.someNonEmpty (n.matcherNodes.map (Matcher.ofNode source) ++
        [⟨.eqlSingle, "__name__", name.text source⟩]) = true := by
      rw [someNonEmpty_eq_true_iff]
      exact ⟨_, List.mem_append_right _ List.mem_cons_self, text⟩
    simp only [Option.map_some, Option.getD_some, text, Bool.false_eq_true, ↓reduceIte, asks,
      List.append_nil]
    constructor
    · intro clear
      refine ⟨fun _ m member isName => ?_, .inl rfl⟩
      have again : (n.matcherNodes.find? fun m =>
          (Matcher.ofNode source m).name == "__name__").isSome = true :=
        List.find?_isSome.mpr ⟨m, member, by simp [isName]⟩
      split at clear
      · cases clear
      · rename_i none
        rw [none] at again
        cases again
    · intro selects
      have none : (n.matcherNodes.find? fun m =>
          (Matcher.ofNode source m).name == "__name__") = none := by
        rw [List.find?_eq_none]
        intro m member
        simpa using selects.1 rfl m member
      rw [none]

/-- The check finds nothing wrong in an expression exactly where it is allowed. -/
def Agrees (source : Text) (n : Node) : Prop := n.problems source = [] ↔ n.Allowed source

section Forms

variable {source : Text} {n : Node}

theorem agrees_expr (kind : n.kind = .expr) (inside : ∀ c ∈ n.children, c.Agrees source) :
    n.Agrees source := by
  rw [Agrees, problems, Allowed]
  simp only [kind]
  split
  · rename_i inner found
    have same := inside inner (List.mem_of_mem_head? found)
    simp only [found, Option.some.injEq, forall_eq']
    exact same
  · rename_i none
    simp [none]

/-- Parentheses, ranges and offsets ask nothing but that what is inside is allowed. -/
theorem agrees_around (kind : n.kind = .parenExpr ∨ n.kind = .matrixSelector ∨ n.kind = .offsetExpr)
    (inside : ∀ c ∈ n.children, c.Agrees source) : n.Agrees source := by
  have allowed : n.Allowed source ↔
      ∀ inner, n.child? .expr = some inner → inner.Allowed source := by
    rw [Allowed]
    rcases kind with kind | kind | kind <;> simp only [kind]
  have checked : n.problems source = [] ↔
      ∀ inner, n.child? .expr = some inner → inner.problems source = [] := by
    rw [problems]
    rcases kind with kind | kind | kind <;>
    · simp only [kind]
      split <;> simp_all
  rw [Agrees, allowed, checked]
  exact forall₂_congr fun inner found => inside inner (mem_children_of_child? found)

theorem agrees_unary (kind : n.kind = .unaryExpr) (inside : ∀ c ∈ n.children, c.Agrees source) :
    n.Agrees source := by
  rw [Agrees, problems, Allowed]
  simp only [kind, List.append_eq_nil_iff, unless_eq_nil_iff]
  split
  · rename_i inner found
    rw [at?_singleton] at found
    have same := inside inner (mem_children_of_child? found)
    simpa [found, typeOf?, hasType_iff, ValueType.isOperand_iff] using and_congr_left fun _ => same
  · rename_i none
    rw [at?_singleton] at none
    simp [none, typeOf?, ValueType.isOperand]

theorem agrees_subquery (kind : n.kind = .subqueryExpr)
    (inside : ∀ c ∈ n.children, c.Agrees source) : n.Agrees source := by
  rw [Agrees, problems, Allowed]
  simp only [kind, List.append_eq_nil_iff, unless_eq_nil_iff]
  split
  · rename_i inner found
    rw [at?_singleton] at found
    have same := inside inner (mem_children_of_child? found)
    simpa [found, typeOf?, hasType_iff] using and_congr_left fun _ => same
  · rename_i none
    rw [at?_singleton] at none
    simp [none, typeOf?]

theorem agrees_selector (kind : n.kind = .vectorSelector)
    (checkable : n.Everywhere (Checkable source)) : n.Agrees source := by
  rw [Agrees, problems, Allowed]
  simp only [kind]
  exact selectorProblems_eq_nil_iff kind checkable

/-- The parts of a binary expression that is allowed. -/
theorem allowed_binary_iff (kind : n.kind = .binaryExpr) {left symbol right : Node}
    {modifiers : List Node} {op : BinaryOp}
    (parts : n.BinaryParts left symbol modifiers right op) :
    n.Allowed source ↔ left.Allowed source ∧ right.Allowed source ∧
      op.Fits source (modifiers.flatMap Node.children) left.type right.type := by
  rw [Allowed]
  simp only [kind, hasType_iff, exists_prop]
  constructor
  · rintro ⟨left', symbol', modifiers', right', op', children, isSymbol, first, last, lt, rt, rfl,
      rfl, fits⟩
    rw [parts.children] at children
    obtain ⟨front, same⟩ := List.append_inj' children rfl
    obtain ⟨rfl, rest⟩ := List.cons.inj front
    obtain ⟨rfl, rfl⟩ := List.cons.inj rest
    obtain rfl := List.singleton_inj.mp same
    rw [parts.isSymbol, NodeKind.operator.injEq] at isSymbol
    exact ⟨first, last, isSymbol ▸ fits⟩
  · rintro ⟨first, last, fits⟩
    exact ⟨left, symbol, modifiers, right, op, parts.children, parts.isSymbol, first, last, _, _,
      rfl, rfl, fits⟩

theorem agrees_binary (kind : n.kind = .binaryExpr) (lawful : n.Everywhere Lawful)
    (inside : ∀ c ∈ n.children, c.Agrees source) : n.Agrees source := by
  obtain ⟨left, symbol, modifiers, right, op, parts⟩ := exists_binaryParts lawful.top kind
  have isLeft := parts.first?_eq
  have isRight := parts.last?_eq
  have sameLeft := inside left (List.mem_of_mem_head? isLeft)
  have sameRight := inside right (List.mem_of_getLast? isRight)
  have checked : n.problems source = [] ↔ left.problems source = [] ∧ right.problems source = [] ∧
      binaryProblems source n left right = [] := by
    rw [problems]
    simp only [kind]
    split
    · simp_all
    · simp_all
  rw [Agrees, checked, allowed_binary_iff kind parts, binaryProblems_eq_nil_iff parts lawful]
  exact and_congr sameLeft (and_congr_left' sameRight)

theorem wantedParameter?_eq (op : Aggregator) :
    wantedParameter? (.aggregator op) = op.parameter? := by
  cases op <;> rfl

theorem aggregate_parts (checkable : n.Everywhere (Checkable source))
    (kind : n.kind = .aggregateExpr) :
    ∃ symbol op, n.first?.bind first? = some symbol ∧ symbol.kind = .aggregator op ∧
      n.aggregator? = some op := by
  have rule := checkable.top.orderly.lawful.rule_of_inner (by rw [kind]; rfl)
  rw [kind] at rule
  obtain ⟨tail, kinds⟩ := rule.of_aggregateExpr
  obtain ⟨outer, more, children, isOuter, -⟩ := List.map_eq_cons_iff.mp kinds
  have child : outer ∈ n.children := by simp [children]
  have rule := (checkable.child child).top.orderly.lawful.rule_of_inner (by rw [isOuter]; rfl)
  rw [isOuter] at rule
  obtain ⟨op, kinds⟩ := rule.of_aggregateOp
  obtain ⟨symbol, only, isSymbol⟩ := List.map_eq_singleton_iff.mp kinds
  refine ⟨symbol, op, by simp [first?, children, only], isSymbol, ?_⟩
  simp [aggregator?, child?, first?, children, isOuter, only, isSymbol]

/-- The check of an aggregation looks at its last argument, and at the one before it if the
operator takes a parameter. -/
theorem problems_aggregate (kind : n.kind = .aggregateExpr)
    (checkable : n.Everywhere (Checkable source)) :
    n.problems source = [] ↔
      (∃ last, n.callArguments.getLast? = some last ∧
        last.problems source = [] ∧ last.type = .vector) ∧
      ∀ want, n.aggregator?.bind Aggregator.parameter? = some want →
        ∃ parameter, n.callArguments.dropLast.getLast? = some parameter ∧
          parameter.problems source = [] ∧ parameter.type = want := by
  obtain ⟨symbol, op, found, isSymbol, operator⟩ := aggregate_parts checkable kind
  obtain ⟨atLast, atParameter⟩ := callArguments_getLast? fun m member =>
    (checkable m member).orderly
  rw [problems, atLast, atParameter]
  simp only [kind, found, operator, Option.bind_some, isSymbol, wantedParameter?_eq]
  split
  · rename_i none
    simp [none]
  rename_i last isLast
  simp only [List.append_eq_nil_iff, mismatch_eq_nil_iff, isLast, Option.some.injEq,
    exists_eq_left']
  refine and_congr_right fun _ => ?_
  cases op.parameter? with
  | none => simp
  | some want =>
    simp only [Option.some.injEq, forall_eq']
    split
    · rename_i none
      simp [none]
    · rename_i parameter isParameter
      simp [isParameter, mismatch_eq_nil_iff]

theorem agrees_aggregate (kind : n.kind = .aggregateExpr)
    (checkable : n.Everywhere (Checkable source))
    (inside : ∀ c ∈ n.callArguments, c.Agrees source) : n.Agrees source := by
  rw [Agrees, problems_aggregate kind checkable, Allowed]
  simp only [kind, exists_prop, hasType_iff, arguments_eq (lawful_of_checkable checkable)]
  refine and_congr (exists_congr fun last => and_congr_right fun isLast => ?_)
    (forall₂_congr fun want _ => exists_congr fun parameter => and_congr_right fun before => ?_)
  · exact and_congr_left' (inside last (List.mem_of_getLast? isLast))
  · have member := List.dropLast_subset _ (List.mem_of_getLast? before)
    exact and_congr_left' (inside parameter member)

theorem call_parts (checkable : n.Everywhere (Checkable source)) (kind : n.kind = .functionCall) :
    ∃ name, n.first?.bind first? = some name ∧
      ∀ f, n.calledFunction? = some f ↔ name.kind = .function f := by
  have rule := checkable.top.orderly.lawful.rule_of_inner (by rw [kind]; rfl)
  rw [kind] at rule
  obtain ⟨outer, more, children, isOuter, -⟩ := List.map_eq_cons_iff.mp rule.of_functionCall
  have child : outer ∈ n.children := by simp [children]
  have rule := (checkable.child child).top.orderly.lawful.rule_of_inner (by rw [isOuter]; rfl)
  rw [isOuter] at rule
  obtain ⟨k, kinds⟩ := rule.of_functionIdentifier
  obtain ⟨name, only, -⟩ := List.map_eq_singleton_iff.mp kinds
  refine ⟨name, by simp [first?, children, only], fun f => ?_⟩
  simp only [calledFunction?, child?, first?, children, isOuter, beq_self_eq_true,
    List.find?_cons_of_pos, Option.bind_some, only, List.head?_cons, Option.map_some]
  split <;> simp_all

/-- The check of a known function looks at the number of arguments, and at every argument. -/
theorem problems_call {f : QueryFunction} (kind : n.kind = .functionCall)
    (checkable : n.Everywhere (Checkable source)) (called : n.calledFunction? = some f) :
    n.problems source = [] ↔
      f.signature.Admits n.callArguments.length ∧
      ∀ index argument, n.callArguments[index]? = some argument →
        argument.problems source = [] ∧ f.signature.typeAt? index = some argument.type := by
  obtain ⟨name, found, isCalled⟩ := call_parts checkable kind
  have arity : n.arityProblems f = [] ↔ f.signature.Admits n.callArguments.length := by
    rw [← Signature.arityFault?_eq_none_iff, arityProblems]
    split <;> simp_all
  have each := forall_mem_zip_attach n.callArguments
    (f.signature.wanted n.callArguments.length)
    fun argument want => argument.problems source = [] ∧ argument.type = want
  rw [problems]
  simp only [kind, found, (isCalled f).mp called, List.append_eq_nil_iff,
    List.flatMap_eq_nil_iff, mismatch_eq_nil_iff]
  rw [arity, each]
  refine and_congr_right fun admits => forall₂_congr fun index argument => ?_
  constructor
  · intro typed isArgument
    have within := (List.getElem?_eq_some_iff.mp isArgument).1
    obtain ⟨same, some⟩ := Signature.getElem?_wanted f.variadic_of_nil admits within
    obtain ⟨want, isWanted⟩ := Option.isSome_iff_exists.mp some
    obtain ⟨clear, hasType⟩ := typed want isArgument (same.trans isWanted)
    exact ⟨clear, by rw [isWanted, hasType]⟩
  · intro typed want isArgument isWanted
    have within := (List.getElem?_eq_some_iff.mp isArgument).1
    obtain ⟨same, -⟩ := Signature.getElem?_wanted f.variadic_of_nil admits within
    obtain ⟨clear, hasType⟩ := typed isArgument
    rw [same, hasType] at isWanted
    exact ⟨clear, Option.some.inj isWanted⟩

theorem agrees_call (kind : n.kind = .functionCall) (checkable : n.Everywhere (Checkable source))
    (inside : ∀ c ∈ n.callArguments, c.Agrees source) : n.Agrees source := by
  cases called : n.calledFunction? with
  | none =>
    obtain ⟨name, found, isCalled⟩ := call_parts checkable kind
    rw [Agrees, problems, Allowed]
    simp only [kind, found, calls_iff, called]
    split <;> simp_all
  | some f =>
    rw [Agrees, problems_call kind checkable called, Allowed]
    simp only [kind, calls_iff, called, Option.some.injEq, forall_eq', hasType_iff,
      exists_eq_right', arguments_eq (lawful_of_checkable checkable)]
    refine and_congr_right fun _ => forall₃_congr fun index argument found => ?_
    exact and_congr_left' (inside argument (List.mem_of_getElem? found))

end Forms

/-- In a tree that obeys the rules the check and the rules agree on every expression. -/
theorem agrees {source : Text} {n : Node} (checkable : n.Everywhere (Checkable source)) :
    n.Agrees source := by
  have children : ∀ c ∈ n.children, c.Agrees source := by
    intro c child
    have smaller := sizeOf_lt_of_mem child
    exact agrees (checkable.child child)
  have arguments : ∀ c ∈ n.callArguments, c.Agrees source := by
    intro c member
    have smaller := sizeOf_callArguments_lt member
    exact agrees (checkable.below (mem_preorder_of_callArguments member))
  cases kind : n.kind with
  | expr => exact agrees_expr kind children
  | parenExpr => exact agrees_around (.inl kind) children
  | matrixSelector => exact agrees_around (.inr (.inl kind)) children
  | offsetExpr => exact agrees_around (.inr (.inr kind)) children
  | unaryExpr => exact agrees_unary kind children
  | subqueryExpr => exact agrees_subquery kind children
  | vectorSelector => exact agrees_selector kind checkable
  | aggregateExpr => exact agrees_aggregate kind checkable arguments
  | binaryExpr => exact agrees_binary kind (lawful_of_checkable checkable) children
  | functionCall => exact agrees_call kind checkable arguments
  | _ =>
    rw [Agrees, problems, Allowed]
    simp only [kind]
termination_by sizeOf n

end Node

namespace SyntaxTree

theorem parse_checkable (text : Text) :
    (parse text).root.Everywhere (Node.Checkable text) := by
  intro n member
  refine ⟨⟨parse_lawful text n member, parse_arguments text n member⟩, fun isName => ?_⟩
  have wide : n.start < n.stop :=
    parse_solid text n member (by rw [isName]; rfl) (by simp [isName])
  obtain ⟨first, last⟩ := (parse_wellFormed text).boundaries n member
  exact Text.sliceString_ne_empty wide first last

theorem strayProblems_eq_nil_iff {t : SyntaxTree} :
    t.strayProblems = [] ↔ ∀ n ∈ t.nodes, n.kind = .error → n.stop = t.size := by
  rw [strayProblems, List.map_eq_nil_iff, List.filter_eq_nil_iff]
  refine forall₂_congr fun n _ => ?_
  cases kind : n.kind <;> simp [NodeKind.isError]

/-- A text is found right exactly where every error ends with the text, as one does where the query
is still being typed, and the expression, if there is one, is allowed. -/
theorem check_eq_nil_iff (text : Text) :
    (parse text).check = [] ↔
      (∀ n ∈ (parse text).nodes, n.kind = .error → n.stop = Text.size text) ∧
      ∀ n, (parse text).root.first? = some n → n.Allowed text := by
  rw [check, stableSort_eq_nil_iff, List.append_eq_nil_iff, strayProblems_eq_nil_iff, and_comm]
  refine and_congr_right fun _ => ?_
  cases first : (parse text).root.first? with
  | none => simp
  | some n =>
    have child : n ∈ (parse text).root.children := List.mem_of_mem_head? first
    have same := Node.agrees ((parse_checkable text).child child)
    simp only [Option.map_some, Option.getD_some, Option.some.injEq, forall_eq']
    exact same

end SyntaxTree

end MetricQuery
