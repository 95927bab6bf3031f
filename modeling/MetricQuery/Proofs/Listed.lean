import MetricQuery.Proofs.Allowed
import MetricQuery.Proofs.Arguments

/-!
What stands in the lists of labels, matchers and arguments. Wherever below the brackets a label or a
matcher is found, it belongs to an item of the list, and the outermost expressions between the
parentheses of a call are the items there.
-/

set_option autoImplicit false

namespace MetricQuery

/-- Where a list holds one element of a kind at most, looking for the kind finds it. -/
theorem find?_of_count {α : Type} {kindOf : α → NodeKind} {as : List α} {a : α} {kind : NodeKind}
    (once : (as.map kindOf).count kind ≤ 1) (member : a ∈ as) (isKind : kindOf a = kind) :
    as.find? (fun b => kindOf b == kind) = some a := by
  induction as with
  | nil => cases member
  | cons b bs ih =>
    rw [List.map_cons, List.count_cons] at once
    rcases List.mem_cons.mp member with rfl | later
    · exact List.find?_cons_of_pos (by simpa using isKind)
    · have among : kind ∈ bs.map kindOf := isKind ▸ List.mem_map_of_mem later
      have some := List.count_pos_iff.mpr among
      have other : kindOf b ≠ kind := by
        intro same
        simp only [same, beq_self_eq_true, ↓reduceIte] at once
        omega
      rw [List.find?_cons_of_neg (by simpa using other)]
      exact ih (by omega) later

/-- Where a list holds one element of a kind at most, and nothing comes from any other, all that
comes from the list comes from that one. -/
theorem flatMap_of_count {α β : Type} {kindOf : α → NodeKind} {f : α → List β} {kind : NodeKind}
    {as : List α} (once : (as.map kindOf).count kind ≤ 1)
    (others : ∀ a ∈ as, kindOf a = kind ∨ f a = []) :
    as.flatMap f = ((as.find? fun a => kindOf a == kind).map f).getD [] := by
  cases found : as.find? fun a => kindOf a == kind with
  | none =>
    rw [List.find?_eq_none] at found
    refine List.flatMap_eq_nil_iff.mpr fun a member => (others a member).resolve_left ?_
    simpa using found a member
  | some a =>
    obtain ⟨isKind, before, after, rfl, none⟩ := List.find?_eq_some_iff_append.mp found
    have isKind : kindOf a = kind := by simpa using isKind
    have rest : (after.map kindOf).count kind = 0 := by
      simp only [List.map_append, List.map_cons, List.count_append, List.count_cons, isKind,
        beq_self_eq_true, ↓reduceIte] at once
      omega
    have front : before.flatMap f = [] :=
      List.flatMap_eq_nil_iff.mpr fun b member =>
        (others b (by simp [member])).resolve_left (by simpa using none b member)
    have back : after.flatMap f = [] :=
      List.flatMap_eq_nil_iff.mpr fun b member =>
        (others b (by simp [member])).resolve_left fun same =>
          List.count_eq_zero.mp rest (same ▸ List.mem_map_of_mem member)
    simp [front, back]

namespace Node

/-- Where there is one child of a kind at most, looking for the kind finds it. -/
theorem child?_of_count {n c : Node} {kind : NodeKind}
    (once : (n.children.map Node.kind).count kind ≤ 1) (child : c ∈ n.children)
    (isKind : c.kind = kind) : n.child? kind = some c := find?_of_count once child isKind

theorem preorder_of_childless {n : Node} (childless : n.children = []) : n.preorder = [n] := by
  rw [preorder_eq, childless, List.flatMap_nil]

/-- Nothing is below a leaf, errors apart. -/
theorem preorder_of_isLeaf {n : Node} (lawful : n.Lawful) (isLeaf : n.kind.isLeaf = true)
    (present : n.kind ≠ .error) : n.preorder = [n] := by
  rcases lawful.rule with ⟨childless, -⟩ | rule
  · exact preorder_of_childless childless
  · exact absurd (rule.eq_error_of_isLeaf isLeaf) present

/-- Below an error there is at most the word that is wrong. -/
theorem kind_below_error {n m : Node} (lawful : n.Everywhere Lawful) (isError : n.kind = .error)
    (below : m ∈ n.preorder) : m.kind = .error ∨ m.kind = .identifier := by
  rw [preorder_eq, List.mem_cons, List.mem_flatMap] at below
  rcases below with rfl | ⟨c, child, below⟩
  · exact .inl isError
  rcases lawful.top.rule with ⟨childless, -⟩ | rule
  · rw [childless] at child
    cases child
  have among : c.kind ∈ n.children.map kind := List.mem_map_of_mem child
  rw [isError] at rule
  have isWord : c.kind = .identifier := by
    generalize n.children.map kind = kinds at rule among
    cases rule with
    | error => exact List.mem_singleton.mp among
    | listStart own | listMore own | body own => cases own
  rw [preorder_of_isLeaf (lawful.child child).top (by rw [isWord]; rfl) (by simp [isWord]),
    List.mem_singleton] at below
  exact .inr (below ▸ isWord)

section Lists

variable {body list item : NodeKind} (rule : ListRule body list item)
  (only : ∀ last, ListRule body list last → last = item)

include rule only

/-- Whatever is below a list, other lists apart, belongs to an item of it. -/
theorem mem_preorder_list {n m : Node} (lawful : n.Everywhere Lawful) (isList : n.kind = list)
    (other : m.kind ≠ list) : m ∈ n.preorder ↔ ∃ i ∈ n.items list item, m ∈ i.preorder := by
  have made := lawful.top.rule_of_inner (by rw [isList]; exact rule.inner.1)
  rw [isList] at made
  obtain ⟨last, own, kinds⟩ := rule.of_list made
  rw [only last own] at kinds
  have below : m ∈ n.preorder ↔ ∃ c ∈ n.children, m ∈ c.preorder := by
    rw [preorder_eq, List.mem_cons, List.mem_flatMap, or_iff_right]
    rintro rfl
    exact other isList
  rcases kinds with alone | more
  · obtain ⟨i, children, isItem⟩ := List.map_eq_singleton_iff.mp alone
    have items : n.items list item = [i] := by
      simp [items_eq, child?, last?, children, isItem, rule.ne_list, Option.filter]
    rw [below, children, items]
  · obtain ⟨inner, tail, children, isInner, rest⟩ := List.map_eq_cons_iff.mp more
    obtain ⟨i, rfl, isItem⟩ := List.map_eq_singleton_iff.mp rest
    have child : inner ∈ n.children := by simp [children]
    have smaller := sizeOf_lt_of_mem child
    have earlier := mem_preorder_list (lawful.child child) isInner other
    have items : n.items list item = inner.items list item ++ [i] := by
      rw [items_eq]
      simp [child?, last?, children, isInner, isItem, Option.filter]
    simp [below, children, items, earlier, or_and_right, exists_or]
termination_by sizeOf n

/-- Whatever is between brackets, lists and errors apart, belongs to an item of the list there. -/
theorem mem_preorder_body {n m : Node} (lawful : n.Everywhere Lawful) (isBody : n.kind = body)
    (other : m.kind ∉ [body, list, .error, .identifier]) :
    m ∈ n.preorder ↔ ∃ l, n.child? list = some l ∧ ∃ i ∈ l.items list item, m ∈ i.preorder := by
  simp only [List.mem_cons, List.not_mem_nil, or_false, not_or] at other
  have made := lawful.top.rule_of_inner (by rw [isBody]; exact rule.inner.2)
  rw [isBody] at made
  obtain ⟨known, once⟩ := rule.of_body made
  rw [preorder_eq, List.mem_cons, List.mem_flatMap, or_iff_right]
  · constructor
    · rintro ⟨c, child, below⟩
      rcases known c.kind (List.mem_map_of_mem child) with isList | isError
      · have items := mem_preorder_list rule only (lawful.child child) isList other.2.1
        exact ⟨c, child?_of_count once child isList, items.mp below⟩
      · rcases kind_below_error (lawful.child child) isError below with same | same
        · exact absurd same other.2.2.1
        · exact absurd same other.2.2.2
    · rintro ⟨l, found, inside⟩
      have child := mem_children_of_child? found
      have items := mem_preorder_list rule only (lawful.child child) (kind_of_child? found)
        other.2.1
      exact ⟨l, child, items.mpr inside⟩
  · rintro rfl
    exact other.1 isBody

end Lists

/-- The item kind of a list of labels or matchers. -/
theorem kind_of_items {list item : NodeKind} {n i : Node} (member : i ∈ n.items list item) :
    i.kind = item := by
  rw [items_eq, List.mem_append] at member
  rcases member with earlier | last
  · cases found : n.child? list with
    | none => simp [found] at earlier
    | some inner =>
      have smaller := sizeOf_child?_lt found
      exact kind_of_items (n := inner) (by simpa [found] using earlier)
  · exact beq_iff_eq.mp (Option.filter_eq_some_iff.mp (Option.mem_toList.mp last)).2
termination_by sizeOf n

theorem mem_outermost {n m : Node} (member : m ∈ n.outermost) :
    m ∈ n.preorder ∧ m.kind = .expr := by
  rw [outermost_eq] at member
  split at member
  · rename_i isExpr
    rw [List.mem_singleton.mp member]
    exact ⟨n.mem_preorder_self, isExpr⟩
  · obtain ⟨c, child, inside⟩ := List.mem_flatMap.mp member
    have smaller := sizeOf_lt_of_mem child
    obtain ⟨below, isExpr⟩ := mem_outermost inside
    exact ⟨mem_preorder_trans (mem_preorder_of_mem child) below, isExpr⟩
termination_by sizeOf n

theorem outermost_of_error {n : Node} (lawful : n.Everywhere Lawful) (isError : n.kind = .error) :
    n.outermost = [] := by
  refine List.eq_nil_iff_forall_not_mem.mpr fun m member => ?_
  obtain ⟨below, isExpr⟩ := mem_outermost member
  rcases kind_below_error lawful isError below with same | same <;>
  · rw [isExpr] at same
    cases same

/-- An operand is the one outermost expression in it, where it is no error. -/
theorem outermost_of_operand {n : Node} (lawful : n.Everywhere Lawful)
    (operand : OperandKind n.kind) : n.outermost = ([n].filter fun c => c.kind == .expr) := by
  rcases operand with isExpr | isError
  · simp [outermost_eq, isExpr]
  · simp [outermost_of_error lawful isError, isError]

/-- The outermost expressions of an argument list are its items. -/
theorem outermost_of_list {args : Node} (lawful : args.Everywhere Lawful)
    (isList : args.kind = .functionCallArgs) :
    args.outermost = args.items .functionCallArgs .expr := by
  have rule := lawful.top.rule_of_inner (by rw [isList]; rfl)
  rw [isList] at rule
  rw [outermost_eq, if_neg (by simp [isList]), items_eq]
  obtain ⟨item, operand, alone | more⟩ := rule.of_functionCallArgs
  · obtain ⟨i, children, rfl⟩ := List.map_eq_singleton_iff.mp alone
    have last := outermost_of_operand (lawful.child (by simp [children])) operand
    rw [children, List.flatMap_singleton, last]
    rcases operand with isExpr | isError
    · simp [child?, last?, children, isExpr, Option.filter]
    · simp [child?, last?, children, isError, Option.filter]
  · obtain ⟨inner, tail, children, isInner, rest⟩ := List.map_eq_cons_iff.mp more
    obtain ⟨i, rfl, rfl⟩ := List.map_eq_singleton_iff.mp rest
    have smaller : sizeOf inner < sizeOf args := sizeOf_lt_of_mem (by simp [children])
    have earlier := outermost_of_list (lawful.child (by simp [children])) isInner
    have last := outermost_of_operand (lawful.child (c := i) (by simp [children])) operand
    rw [children, List.flatMap_cons, List.flatMap_singleton, earlier, last]
    rcases operand with isExpr | isError
    · simp [child?, last?, children, isInner, isExpr, Option.filter]
    · simp [child?, last?, children, isInner, isError, Option.filter]
termination_by sizeOf args

/-- The arguments of a call are those the check goes through. -/
theorem arguments_eq {n : Node} (lawful : n.Everywhere Lawful) : n.arguments = n.callArguments := by
  rw [callArguments_eq lawful, at?_cons, arguments]
  cases found : n.child? .functionCallBody with
  | none => rfl
  | some body =>
    have isBody := kind_of_child? found
    have inner := lawful.child (mem_children_of_child? found)
    have rule := inner.top.rule_of_inner (by rw [isBody]; rfl)
    rw [isBody] at rule
    obtain ⟨known, once⟩ := (ListRule.arguments (.inl rfl)).of_body rule
    have others : ∀ c ∈ body.children, c.kind = .functionCallArgs ∨ c.outermost = [] :=
      fun c child => (known c.kind (List.mem_map_of_mem child)).imp_right
        (outermost_of_error (inner.child child))
    simp only [Option.map_some, Option.getD_some, Option.bind_some, at?_singleton]
    rw [outermost_eq, if_neg (by simp [isBody]), flatMap_of_count once others, child?]
    cases list : body.children.find? (·.kind == .functionCallArgs) with
    | none => rfl
    | some args =>
      exact outermost_of_list (inner.child (mem_children_of_child? list)) (kind_of_child? list)

variable {n m : Node}

/-- The label of a grouping label is what is below it. -/
theorem mem_preorder_groupingLabel (lawful : n.Everywhere Lawful)
    (isLabel : n.kind = .groupingLabel) (isName : m.kind = .labelName) :
    m ∈ n.preorder ↔ n.child? .labelName = some m := by
  have made := lawful.top.rule_of_inner (by rw [isLabel]; rfl)
  rw [isLabel] at made
  obtain ⟨c, children, kind⟩ := List.map_eq_singleton_iff.mp made.of_groupingLabel
  have child : c ∈ n.children := by simp [children]
  have leaf := preorder_of_isLeaf (lawful.child child).top (by rw [kind]; rfl) (by simp [kind])
  have other : m ≠ n := by
    rintro rfl
    rw [isLabel] at isName
    cases isName
  rw [preorder_eq, List.mem_cons, or_iff_right other]
  simp [children, leaf, child?, kind, eq_comm]

/-- The names of a grouping are the label names that stand in its parentheses. -/
theorem mem_groupingNames_iff (source : Text) (lawful : n.Everywhere Lawful)
    (isGrouping : n.kind = .groupingLabels) (label : String) :
    label ∈ n.groupingNames source ↔
      ∃ name ∈ n.preorder, name.kind = .labelName ∧ name.text source = label := by
  have only : ∀ last, ListRule .groupingLabels .groupingLabelList last → last = .groupingLabel := by
    intro last own
    cases own
    rfl
  have inside : ∀ name, name.kind = .labelName → (name ∈ n.preorder ↔
      ∃ l, n.child? .groupingLabelList = some l ∧
        ∃ i ∈ l.items .groupingLabelList .groupingLabel, i.child? .labelName = some name) := by
    intro name isName
    rw [mem_preorder_body .labels only lawful isGrouping (by simp [isName])]
    refine exists_congr fun l => and_congr_right fun found => exists_congr fun i =>
      and_congr_right fun member => ?_
    have under := (lawful.child (mem_children_of_child? found)).below (mem_preorder_of_items member)
    exact mem_preorder_groupingLabel under (kind_of_items member) isName
  have named : ∀ name, name ∈ n.preorder ∧ name.kind = .labelName ↔
      ∃ l, n.child? .groupingLabelList = some l ∧
        ∃ i ∈ l.items .groupingLabelList .groupingLabel, i.child? .labelName = some name := by
    intro name
    constructor
    · rintro ⟨member, isName⟩
      exact (inside name isName).mp member
    · rintro ⟨l, found, i, member, isLabel⟩
      have isName := kind_of_child? isLabel
      exact ⟨(inside name isName).mpr ⟨l, found, i, member, isLabel⟩, isName⟩
  have names : (∃ name ∈ n.preorder, name.kind = .labelName ∧ name.text source = label) ↔
      ∃ name, (∃ l, n.child? .groupingLabelList = some l ∧
        ∃ i ∈ l.items .groupingLabelList .groupingLabel, i.child? .labelName = some name) ∧
        name.text source = label := by
    simp only [← and_assoc, named]
  rw [names, groupingNames, at?_singleton]
  cases n.child? .groupingLabelList with
  | none => simp
  | some l =>
    simp only [List.mem_filterMap, Option.map_eq_some_iff, Option.some.injEq, exists_eq_left']
    constructor
    · rintro ⟨i, member, name, found, same⟩
      exact ⟨name, ⟨i, member, found⟩, same⟩
    · rintro ⟨name, ⟨i, member, found⟩, same⟩
      exact ⟨i, member, name, found, same⟩

/-- The only matcher at or below a matcher is itself. -/
theorem mem_preorder_labelMatcher (lawful : n.Everywhere Lawful)
    (isMatcher : n.kind = .labelMatcher) (isKind : m.kind = .labelMatcher) :
    m ∈ n.preorder ↔ m = n := by
  have made := lawful.top.rule_of_inner (by rw [isMatcher]; rfl)
  rw [isMatcher] at made
  have parts : ∀ c ∈ n.children, c.kind = .labelName ∨ c.kind = .matchOp ∨
      c.kind = .stringLiteral ∨ c.kind = .error := by
    intro c child
    have among : c.kind ∈ n.children.map kind := List.mem_map_of_mem child
    generalize n.children.map kind = kinds at made among
    cases made with
    | labelMatcher comparison =>
      simp only [List.mem_cons] at among
      rcases comparison with rfl | rfl | rfl | rfl <;>
        simp only [List.mem_cons, List.not_mem_nil, or_false] at among <;> tauto
    | listStart own | listMore own | body own => cases own
  rw [preorder_eq, List.mem_cons, or_iff_left]
  rw [List.mem_flatMap]
  rintro ⟨c, child, below⟩
  have inner := lawful.child child
  have leaf : c.kind.isLeaf = true → c.kind ≠ .error → c.kind = .labelMatcher := by
    intro isLeaf present
    rw [preorder_of_isLeaf inner.top isLeaf present, List.mem_singleton] at below
    exact below ▸ isKind
  rcases parts c child with kind | kind | kind | kind
  · simpa [kind] using leaf (by rw [kind]; rfl) (by simp [kind])
  · have made := inner.top.rule_of_inner (by rw [kind]; rfl)
    rw [kind] at made
    rw [preorder_eq, List.mem_cons, List.mem_flatMap] at below
    rcases below with rfl | ⟨d, under, below⟩
    · rw [kind] at isKind
      cases isKind
    have among : d.kind ∈ c.children.map Node.kind := List.mem_map_of_mem under
    obtain ⟨op, kinds⟩ := made.of_matchOp
    rw [kinds, List.mem_singleton] at among
    rw [preorder_of_isLeaf (inner.child under).top (by rw [among]; rfl) (by simp [among]),
      List.mem_singleton] at below
    rw [below, among] at isKind
    cases isKind
  · simpa [kind] using leaf (by rw [kind]; rfl) (by simp [kind])
  · rcases kind_below_error inner kind below with same | same <;>
    · rw [isKind] at same
      cases same

/-- The matchers of a selector are those that stand in its braces. -/
theorem mem_matcherNodes_iff (lawful : n.Everywhere Lawful)
    (isSelector : n.kind = .vectorSelector) :
    m ∈ n.matcherNodes ↔ m ∈ n.preorder ∧ m.kind = .labelMatcher := by
  have only : ∀ last, ListRule .labelMatchers .labelMatchList last → last = .labelMatcher := by
    intro last own
    cases own
    rfl
  have listed : m ∈ n.matcherNodes ↔ ∃ braces l, n.child? .labelMatchers = some braces ∧
      braces.child? .labelMatchList = some l ∧ m ∈ l.items .labelMatchList .labelMatcher := by
    rw [matcherNodes, at?_cons]
    cases n.child? .labelMatchers with
    | none => simp
    | some braces => cases found : braces.child? .labelMatchList <;> simp [found]
  have made := lawful.top.rule_of_inner (by rw [isSelector]; rfl)
  rw [isSelector] at made
  have once := List.nodup_iff_count_le_one.mp made.of_vectorSelector.2 .labelMatchers
  rw [listed]
  constructor
  · rintro ⟨braces, l, found, isList, member⟩
    have under := mem_preorder_of_mem (mem_children_of_child? found)
    have list := mem_preorder_of_child under (mem_children_of_child? isList)
    exact ⟨mem_preorder_trans list (mem_preorder_of_items member), kind_of_items member⟩
  · rintro ⟨member, isMatcher⟩
    rw [preorder_eq, List.mem_cons, List.mem_flatMap] at member
    rcases member with rfl | ⟨c, child, below⟩
    · rw [isSelector] at isMatcher
      cases isMatcher
    have inner := lawful.child child
    rcases made.of_vectorSelector.1 _ (List.mem_map_of_mem child) with isMetric | isBraces
    · have single := inner.top.rule_of_inner (by rw [isMetric]; rfl)
      rw [isMetric] at single
      obtain ⟨name, children, isName⟩ := List.map_eq_singleton_iff.mp single.of_metricIdentifier
      have under : name ∈ c.children := by simp [children]
      have leaf := preorder_of_isLeaf (inner.child under).top (by rw [isName]; rfl)
        (by simp [isName])
      rw [preorder_eq, children, List.flatMap_singleton, leaf, List.mem_pair] at below
      rcases below with rfl | rfl
      · rw [isMetric] at isMatcher
        cases isMatcher
      · rw [isName] at isMatcher
        cases isMatcher
    · obtain ⟨l, isList, i, listed, below⟩ :=
        (mem_preorder_body .matchers only inner isBraces (by simp [isMatcher])).mp below
      have under := (inner.child (mem_children_of_child? isList)).below
        (mem_preorder_of_items listed)
      obtain rfl := (mem_preorder_labelMatcher under (kind_of_items listed) isMatcher).mp below
      exact ⟨c, l, child?_of_count once child isBraces, isList, listed⟩

/-- A selector has a metric name where one stands before its braces. -/
theorem metricNode?_isSome_iff (lawful : n.Everywhere Lawful)
    (isSelector : n.kind = .vectorSelector) :
    n.metricNode?.isSome = true ↔ ∃ c ∈ n.children, c.kind = .metricIdentifier := by
  rw [metricNode?, at?_cons]
  constructor
  · intro some
    cases found : n.child? .metricIdentifier with
    | none => simp [found] at some
    | some c => exact ⟨c, mem_children_of_child? found, kind_of_child? found⟩
  · rintro ⟨c, child, isMetric⟩
    have made := lawful.top.rule_of_inner (by rw [isSelector]; rfl)
    rw [isSelector] at made
    have once := List.nodup_iff_count_le_one.mp made.of_vectorSelector.2 .metricIdentifier
    have single := (lawful.child child).top.rule_of_inner (by rw [isMetric]; rfl)
    rw [isMetric] at single
    obtain ⟨name, children, isName⟩ := List.map_eq_singleton_iff.mp single.of_metricIdentifier
    rw [child?_of_count once child isMetric, Option.bind_some, at?_singleton]
    simp [child?, children, isName]

end Node

end MetricQuery
