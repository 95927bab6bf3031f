import MetricQuery.Proofs.Allowed
import MetricQuery.Proofs.Listed

/-!
The modifiers of a binary operator. A matching is taken from them child by child, with a flag that
tells which labels come next; the rules for modifiers put every list of labels right behind its
keyword, so the labels that are taken in are the ones that stand there.
-/

set_option autoImplicit false

namespace MetricQuery

namespace Rule

theorem of_binModifiers {kinds : List NodeKind} (rule : Rule .binModifiers kinds) :
    ∃ bool matching, kinds = bool ++ matching ∧ (bool = [] ∨ bool = [.keywordBool]) ∧
      MatchingRule matching := by
  cases rule with
  | binModifiers flag clause both => exact ⟨_, _, both, flag, clause⟩
  | listStart rule | listMore rule | body rule => cases rule

end Rule

namespace Node

/-- Whether a binary expression has a modifier of a kind. -/
def hasModifier (n : Node) (modifier : NodeKind) : Bool :=
  (n.at? [.binModifiers, modifier]).isSome

variable {n : Node} {source : Text} {keywords : List NodeKind} {label : String}

/-- The parts of a binary expression, its operator and what modifies that. -/
structure BinaryParts (n left symbol : Node) (modifiers : List Node) (right : Node)
    (op : BinaryOp) : Prop where
  children : n.children = left :: symbol :: modifiers ++ [right]
  isLeft : left.kind = .expr
  isSymbol : symbol.kind = .operator op
  isModifiers : modifiers = [] ∨ ∃ m, modifiers = [m] ∧ m.kind = .binModifiers
  isRight : OperandKind right.kind

theorem exists_binaryParts (lawful : n.Lawful) (kind : n.kind = .binaryExpr) :
    ∃ left symbol modifiers right op, n.BinaryParts left symbol modifiers right op := by
  have made := lawful.rule_of_inner (by rw [kind]; rfl)
  rw [kind] at made
  generalize same : n.children.map Node.kind = kinds at made
  cases made with
  | binaryExpr op optional operand =>
    obtain ⟨left, tail, children, isLeft, rest⟩ := List.map_eq_cons_iff.mp same
    obtain ⟨symbol, tail, rfl, isSymbol, rest⟩ := List.map_eq_cons_iff.mp rest
    obtain ⟨modifiers, last, rfl, isModifiers, isLast⟩ := List.map_eq_append_iff.mp rest
    obtain ⟨right, rfl, rfl⟩ := List.map_eq_singleton_iff.mp isLast
    refine ⟨left, symbol, modifiers, right, op, children, isLeft, isSymbol, ?_, operand⟩
    rcases optional with rfl | rfl
    · exact .inl (List.map_eq_nil_iff.mp isModifiers)
    · exact .inr (List.map_eq_singleton_iff.mp isModifiers)
  | listStart own | listMore own | body own => cases own

namespace BinaryParts

variable {left symbol right : Node} {modifiers : List Node} {op : BinaryOp}
  (parts : n.BinaryParts left symbol modifiers right op)

include parts

theorem first?_eq : n.first? = some left := by
  rw [first?, parts.children]
  rfl

theorem last?_eq : n.last? = some right := by
  rw [last?, parts.children, List.getLast?_concat]

theorem operator?_eq : n.operator? = some op := by
  simp [operator?, parts.children, parts.isLeft, parts.isSymbol]

theorem child?_eq : n.child? .binModifiers = modifiers.head? := by
  have notRight : right.kind ≠ .binModifiers := by
    rcases parts.isRight with same | same <;> simp [same]
  rcases parts.isModifiers with rfl | ⟨m, rfl, isModifiers⟩
  · simp [child?, parts.children, parts.isLeft, parts.isSymbol, notRight]
  · simp [child?, parts.children, parts.isLeft, parts.isSymbol, isModifiers]

/-- What modifies the operator is what the node for modifiers holds, if there is one. -/
theorem modifiers_eq :
    ((n.child? .binModifiers).map Node.children).getD [] = modifiers.flatMap Node.children := by
  rw [parts.child?_eq]
  rcases parts.isModifiers with rfl | ⟨m, rfl, -⟩ <;> simp

theorem hasModifier_iff (modifier : NodeKind) :
    n.hasModifier modifier = true ↔ modifier ∈ (modifiers.flatMap Node.children).map kind := by
  rw [hasModifier, at?_cons, ← parts.modifiers_eq]
  cases n.child? .binModifiers with
  | none => simp
  | some m => simp [child?]

/-- Modifiers obey their rule, or there are none. -/
theorem modifiers_rule (lawful : n.Everywhere Lawful) :
    modifiers.flatMap Node.children = [] ∨
      Rule .binModifiers ((modifiers.flatMap Node.children).map kind) := by
  rcases parts.isModifiers with rfl | ⟨m, rfl, isModifiers⟩
  · exact .inl rfl
  · have child : m ∈ n.children := by simp [parts.children]
    have made := (lawful.child child).top.rule_of_inner (by rw [isModifiers]; rfl)
    rw [isModifiers] at made
    exact .inr (by simpa using made)

theorem modifiers_lawful (lawful : n.Everywhere Lawful) :
    ∀ c ∈ modifiers.flatMap Node.children, c.Everywhere Lawful := by
  intro c member
  obtain ⟨m, inside, child⟩ := List.mem_flatMap.mp member
  have below : m ∈ n.children := by simp [parts.children, inside]
  exact (lawful.child below).child child

end BinaryParts

theorem not_labelBehind_nil : ¬ LabelBehind source [] keywords label := by
  rintro ⟨keyword, labels, behind, -⟩
  simp at behind

theorem labelBehind_cons {c : Node} {cs : List Node} :
    LabelBehind source (c :: cs) keywords label ↔
      (c.kind ∈ keywords ∧ ∃ labels ∈ cs.head?, labels.kind = .groupingLabels ∧
        ∃ name ∈ labels.preorder, name.kind = .labelName ∧ name.text source = label) ∨
      LabelBehind source cs keywords label := by
  constructor
  · rintro ⟨keyword, labels, behind, known, rest⟩
    rcases List.infix_cons_iff.mp behind with first | later
    · obtain ⟨rfl, ds, rfl⟩ := List.cons_prefix_cons.mp first
      exact .inl ⟨known, labels, rfl, rest⟩
    · exact .inr ⟨keyword, labels, later, known, rest⟩
  · rintro (⟨known, labels, next, rest⟩ | ⟨keyword, labels, later, known, rest⟩)
    · obtain ⟨ds, rfl⟩ := List.head?_eq_some_iff.mp next
      exact ⟨c, labels, List.IsPrefix.isInfix ⟨ds, rfl⟩, known, rest⟩
    · exact ⟨keyword, labels, List.infix_cons later, known, rest⟩

end Node

namespace Matching

variable (source : Text)

theorem extend_on (state : Matching × Bool) (c : Node) :
    (extend source state c).1.on = (state.1.on || c.kind == .keywordOn) := by
  obtain ⟨m, inGroup⟩ := state
  cases kind : c.kind <;> cases inGroup <;> simp [extend, kind]

theorem foldl_extend_on (cs : List Node) (state : Matching × Bool) :
    (cs.foldl (extend source) state).1.on = (state.1.on || cs.any (·.kind == .keywordOn)) := by
  induction cs generalizing state with
  | nil => simp
  | cons c cs ih => rw [List.foldl_cons, ih, extend_on, List.any_cons, Bool.or_assoc]

/-- Only a group keyword changes how many series a pair may share. -/
theorem extend_card (state : Matching × Bool) (c : Node) :
    (extend source state c).1.card =
      if c.kind = .keywordGroupLeft then .manyToOne
      else if c.kind = .keywordGroupRight then .oneToMany
      else state.1.card := by
  obtain ⟨m, inGroup⟩ := state
  cases kind : c.kind <;> cases inGroup <;> simp [extend, kind]

theorem foldl_extend_card (cs : List Node) (state : Matching × Bool) :
    let result := (cs.foldl (extend source) state).1
    (result.card = .manyToMany → state.1.card = .manyToMany) ∧
      (result.card = .oneToOne ↔ state.1.card = .oneToOne ∧
        ∀ c ∈ cs, c.kind ≠ .keywordGroupLeft ∧ c.kind ≠ .keywordGroupRight) := by
  induction cs generalizing state with
  | nil => simp
  | cons c cs ih =>
    obtain ⟨many, one⟩ := ih (extend source state c)
    rw [extend_card] at many one
    simp only [List.foldl_cons, List.forall_mem_cons]
    rw [one]
    by_cases left : c.kind = .keywordGroupLeft
    · simp_all
    by_cases right : c.kind = .keywordGroupRight
    · simp_all
    · simp_all

/-- A group clause includes the labels behind its keyword, and matches on none. -/
theorem group_labels {group : List Node} (rule : GroupRule (group.map Node.kind))
    (lawful : ∀ c ∈ group, c.Everywhere Node.Lawful) (m : Matching) (bare : m.included = []) :
    let result := (group.foldl (extend source) (m, false)).1
    result.labels = m.labels ∧
      (∀ label, label ∈ result.included ↔
        Node.LabelBehind source group [.keywordGroupLeft, .keywordGroupRight] label) ∧
      ∀ label, ¬ Node.LabelBehind source group [.keywordOn, .keywordIgnoring] label := by
  generalize same : group.map Node.kind = kinds at rule
  cases rule with
  | absent =>
    rw [List.map_eq_nil_iff] at same
    simp [same, bare, Node.not_labelBehind_nil]
  | bare keyword =>
    obtain ⟨side, rfl, rfl⟩ := List.map_eq_singleton_iff.mp same
    rcases keyword with isSide | isSide <;>
      simp [extend, isSide, bare, Node.labelBehind_cons, Node.not_labelBehind_nil]
  | labels keyword =>
    obtain ⟨side, tail, rfl, rfl, rest⟩ := List.map_eq_cons_iff.mp same
    obtain ⟨list, rfl, isList⟩ := List.map_eq_singleton_iff.mp rest
    have names := Node.mem_groupingNames_iff source (lawful list (by simp)) isList
    rcases keyword with isSide | isSide <;>
      simp [extend, isSide, isList, names, Node.labelBehind_cons, Node.not_labelBehind_nil]

/-- A clause matches on the labels behind `on` or `ignoring`, and includes those behind a group
keyword. -/
theorem clause_labels {clause : List Node} (rule : MatchingRule (clause.map Node.kind))
    (lawful : ∀ c ∈ clause, c.Everywhere Node.Lawful) :
    let result := (clause.foldl (extend source) (⟨.oneToOne, [], false, []⟩, false)).1
    (∀ label, label ∈ result.labels ↔
      Node.LabelBehind source clause [.keywordOn, .keywordIgnoring] label) ∧
    ∀ label, label ∈ result.included ↔
      Node.LabelBehind source clause [.keywordGroupLeft, .keywordGroupRight] label := by
  generalize same : clause.map Node.kind = kinds at rule
  cases rule with
  | absent =>
    rw [List.map_eq_nil_iff] at same
    simp [same, Node.not_labelBehind_nil]
  | clause keywords list rest =>
    obtain ⟨keyword, tail, rfl, rfl, more⟩ := List.map_eq_cons_iff.mp same
    obtain ⟨labels, group, rfl, rfl, rfl⟩ := List.map_eq_cons_iff.mp more
    obtain ⟨of_labels, group⟩ := List.forall_mem_cons.mp (List.forall_mem_cons.mp lawful).2
    obtain ⟨m, start, bare, names⟩ : ∃ m : Matching,
        extend source (extend source (⟨.oneToOne, [], false, []⟩, false) keyword) labels =
          (m, false) ∧ m.included = [] ∧
        ∀ label, label ∈ m.labels ↔ labels.kind = .groupingLabels ∧
          ∃ name ∈ labels.preorder, name.kind = .labelName ∧ name.text source = label := by
      rcases list with isList | isError
      · have names := Node.mem_groupingNames_iff source of_labels isList
        rcases keywords with isKeyword | isKeyword <;>
          exact ⟨_, by simp only [extend, isKeyword, isList]; rfl, rfl, by simp [isList, names]⟩
      · rcases keywords with isKeyword | isKeyword <;>
          exact ⟨_, by simp only [extend, isKeyword, isError]; rfl, rfl, by simp [isError]⟩
    obtain ⟨kept, included, unmatched⟩ := group_labels source rest group m bare
    have notLabels : labels.kind ∉ [.keywordOn, .keywordIgnoring] ∧
        labels.kind ∉ [.keywordGroupLeft, .keywordGroupRight] := by
      rcases list with same | same <;> simp [same]
    have isKeyword : keyword.kind ∈ [.keywordOn, .keywordIgnoring] ∧
        keyword.kind ∉ [.keywordGroupLeft, .keywordGroupRight] := by
      rcases keywords with same | same <;> simp [same]
    rw [List.foldl_cons, List.foldl_cons, start]
    constructor
    · intro label
      rw [kept, names, Node.labelBehind_cons, Node.labelBehind_cons]
      simp [isKeyword.1, notLabels.1, unmatched]
    · intro label
      rw [included, Node.labelBehind_cons, Node.labelBehind_cons]
      simp [isKeyword.2, notLabels.2]

/-- `bool` changes nothing about a matching. -/
theorem bool_labels {flag : List Node} (clause : List Node)
    (bool : flag.map Node.kind = [] ∨ flag.map Node.kind = [.keywordBool])
    (state : Matching × Bool) :
    (flag ++ clause).foldl (extend source) state = clause.foldl (extend source) state ∧
      ∀ keywords label, .keywordBool ∉ keywords →
        (Node.LabelBehind source (flag ++ clause) keywords label ↔
          Node.LabelBehind source clause keywords label) := by
  rcases bool with none | one
  · rw [List.map_eq_nil_iff] at none
    simp [none]
  · obtain ⟨c, rfl, isBool⟩ := List.map_eq_singleton_iff.mp one
    refine ⟨by simp [extend, isBool], fun keywords label other => ?_⟩
    simp [Node.labelBehind_cons, isBool, other]

/-- What is made of modifiers: the labels behind `on` or `ignoring`, whether it is `on`, the labels
behind a group keyword, and one of many series on a side where there is one. -/
structure Reads (modifiers : List Node) (m : Matching) : Prop where
  labels : ∀ label, label ∈ m.labels ↔
    Node.LabelBehind source modifiers [.keywordOn, .keywordIgnoring] label
  on : m.on = true ↔ .keywordOn ∈ modifiers.map Node.kind
  included : ∀ label, label ∈ m.included ↔
    Node.LabelBehind source modifiers [.keywordGroupLeft, .keywordGroupRight] label
  card : m.card ≠ .manyToMany ∧ (m.card = .oneToOne ↔
    .keywordGroupLeft ∉ modifiers.map Node.kind ∧ .keywordGroupRight ∉ modifiers.map Node.kind)

theorem reads_of_rule {modifiers : List Node}
    (rule : modifiers = [] ∨ Rule .binModifiers (modifiers.map Node.kind))
    (lawful : ∀ c ∈ modifiers, c.Everywhere Node.Lawful) :
    Reads source modifiers
      (modifiers.foldl (extend source) (⟨.oneToOne, [], false, []⟩, false)).1 := by
  obtain ⟨many, one⟩ := foldl_extend_card source modifiers (⟨.oneToOne, [], false, []⟩, false)
  have labels : (∀ label,
        label ∈ (modifiers.foldl (extend source) (⟨.oneToOne, [], false, []⟩, false)).1.labels ↔
          Node.LabelBehind source modifiers [.keywordOn, .keywordIgnoring] label) ∧
      ∀ label,
        label ∈ (modifiers.foldl (extend source) (⟨.oneToOne, [], false, []⟩, false)).1.included ↔
          Node.LabelBehind source modifiers [.keywordGroupLeft, .keywordGroupRight] label := by
    rcases rule with rfl | rule
    · simp [Node.not_labelBehind_nil]
    · obtain ⟨bool, matching, both, flag, clause⟩ := rule.of_binModifiers
      obtain ⟨flags, rest, rfl, rfl, rfl⟩ := List.map_eq_append_iff.mp both
      obtain ⟨same, behind⟩ := bool_labels source rest flag
        (⟨.oneToOne, [], false, []⟩, false)
      have read := clause_labels source clause fun c member =>
        lawful c (List.mem_append_right _ member)
      rw [same]
      exact ⟨fun label => (read.1 label).trans (behind _ label (by simp)).symm,
        fun label => (read.2 label).trans (behind _ label (by simp)).symm⟩
  refine ⟨labels.1, ?_, labels.2, fun same => absurd (many same) (by simp), ?_⟩
  · simp [foldl_extend_on]
  · rw [one]
    simp only [List.mem_map, not_exists, not_and]
    exact ⟨fun none => ⟨fun c member => (none.2 c member).1, fun c member => (none.2 c member).2⟩,
      fun none => ⟨trivial, fun c member => ⟨none.1 c member, none.2 c member⟩⟩⟩

/-- The matching of a binary expression is what its modifiers say. -/
theorem ofModifiers_reads {n left symbol right : Node} {modifiers : List Node} {op : BinaryOp}
    (parts : n.BinaryParts left symbol modifiers right op) (lawful : n.Everywhere Node.Lawful) :
    Reads source (modifiers.flatMap Node.children)
      (ofModifiers source (n.child? .binModifiers)) := by
  have read := reads_of_rule source (parts.modifiers_rule lawful)
    (parts.modifiers_lawful lawful)
  rw [ofModifiers, parts.modifiers_eq]
  exact read

end Matching

end MetricQuery
