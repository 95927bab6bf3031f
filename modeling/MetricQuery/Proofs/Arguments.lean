import MetricQuery.Proofs.Productions
import MetricQuery.Typing.Check

/-!
The arguments of a call, as a list and along paths. Following the argument lists down, the first
expression met is the last argument, and the next one is the argument before it.
-/

set_option autoImplicit false

namespace MetricQuery.Node

theorem at?_cons (n : Node) (kind : NodeKind) (path : List NodeKind) :
    n.at? (kind :: path) = (n.child? kind).bind fun c => c.at? path := by
  rw [at?, walk]
  split
  · rename_i childless
    rw [List.isEmpty_iff] at childless
    simp [child?, childless, Walk.found?]
  · cases n.child? kind <;> rfl

@[simp] theorem at?_nil (n : Node) : n.at? [] = some n := rfl

@[simp] theorem at?_singleton (n : Node) (kind : NodeKind) : n.at? [kind] = n.child? kind := by
  rw [at?_cons]
  cases n.child? kind <;> rfl

theorem items_eq (list item : NodeKind) (n : Node) :
    n.items list item = ((n.child? list).map (items list item)).getD [] ++
      (n.last?.filter (·.kind == item)).toList := by
  rw [items]
  split
  · rename_i inner found
    rw [found]
    rfl
  · rename_i found
    rw [found]
    rfl

theorem mem_children_of_child? {n c : Node} {kind : NodeKind} (found : n.child? kind = some c) :
    c ∈ n.children := List.mem_of_find?_eq_some found

theorem kind_of_child? {n c : Node} {kind : NodeKind} (found : n.child? kind = some c) :
    c.kind = kind := by
  simpa using List.find?_some found

theorem mem_preorder_self (n : Node) : n ∈ n.preorder := by
  rw [preorder_eq]
  exact List.mem_cons_self

theorem mem_preorder_of_mem {n c : Node} (child : c ∈ n.children) : c ∈ n.preorder :=
  mem_preorder_of_child n.mem_preorder_self child

theorem mem_preorder_of_items {list item : NodeKind} {n c : Node} (member : c ∈ n.items list item) :
    c ∈ n.preorder := by
  rw [items_eq, List.mem_append] at member
  rcases member with earlier | last
  · cases found : n.child? list with
    | none => simp [found] at earlier
    | some inner =>
      have child := mem_children_of_child? found
      have smaller := sizeOf_lt_of_mem child
      have inside : c ∈ inner.items list item := by simpa [found] using earlier
      exact mem_preorder_trans (mem_preorder_of_mem child) (mem_preorder_of_items inside)
  · have child := (Option.filter_eq_some_iff.mp (Option.mem_toList.mp last)).1
    exact mem_preorder_of_mem (List.mem_of_getLast? child)
termination_by sizeOf n

theorem mem_preorder_of_callArguments {n c : Node} (member : c ∈ n.callArguments) :
    c ∈ n.preorder := by
  rw [callArguments, at?_singleton] at member
  split at member
  · rename_i body found
    exact mem_preorder_trans (mem_preorder_of_mem (mem_children_of_child? found))
      (mem_preorder_of_items member)
  · cases member

/-- A node of a call obeys its rule, and no argument but the first is an error. -/
structure Orderly (n : Node) : Prop where
  lawful : n.Lawful
  present : n.kind = .functionCallArgs → n.children.map kind ≠ [.functionCallArgs, .error]

/-- The last two arguments of a list are the first expressions met on the way down. -/
theorem items_getLast? {args : Node} (orderly : args.Everywhere Orderly)
    (isList : args.kind = .functionCallArgs) :
    (args.items .functionCallArgs .expr).getLast? = args.child? .expr ∧
      (args.items .functionCallArgs .expr).dropLast.getLast? =
        (args.child? .functionCallArgs).bind fun inner => inner.child? .expr := by
  have rule := orderly.top.lawful.rule_of_inner (by rw [isList]; rfl)
  rw [isList] at rule
  obtain ⟨item, operand, alone | more⟩ := rule.of_functionCallArgs
  · obtain ⟨n, children, rfl⟩ := List.map_eq_singleton_iff.mp alone
    rcases operand with isExpr | isError
    · simp [items_eq, child?, last?, children, isExpr, Option.filter]
    · simp [items_eq, child?, last?, children, isError, Option.filter]
  · have isExpr : item = .expr := by
      rcases operand with isExpr | rfl
      · exact isExpr
      · exact absurd more (orderly.top.present isList)
    subst isExpr
    obtain ⟨inner, tail, children, isInner, rest⟩ := List.map_eq_cons_iff.mp more
    obtain ⟨n, rfl, isExpr⟩ := List.map_eq_singleton_iff.mp rest
    have smaller : sizeOf inner < sizeOf args := sizeOf_lt_of_mem (by simp [children])
    have earlier := (items_getLast? (orderly.child (by simp [children])) isInner).1
    rw [items_eq]
    simpa [child?, last?, children, isInner, isExpr, Option.filter] using earlier
termination_by sizeOf args

/-- The arguments of a call are the items of the list in its body; nothing else in there is one. -/
theorem callArguments_eq {n : Node} (lawful : n.Everywhere Lawful) :
    n.callArguments =
      ((n.at? [.functionCallBody, .functionCallArgs]).map
        (items .functionCallArgs .expr)).getD [] := by
  rw [callArguments, at?_singleton, at?_cons]
  cases found : n.child? .functionCallBody with
  | none => rfl
  | some body =>
    have isBody := kind_of_child? found
    have rule := (lawful.child (mem_children_of_child? found)).top.rule_of_inner
      (by rw [isBody]; rfl)
    rw [isBody] at rule
    have none : body.last?.filter (·.kind == .expr) = none := by
      rw [Option.filter_eq_none_iff]
      intro c last isExpr
      have kind := rule.of_functionCallBody c.kind (List.mem_map_of_mem (List.mem_of_getLast? last))
      simp only [beq_iff_eq] at isExpr
      simp [isExpr] at kind
    simp [items_eq .functionCallArgs .expr body, none]

/-- The last two arguments of a call stand at the ends of two paths. -/
theorem callArguments_getLast? {n : Node} (orderly : n.Everywhere Orderly) :
    n.callArguments.getLast? = n.at? [.functionCallBody, .functionCallArgs, .expr] ∧
      n.callArguments.dropLast.getLast? =
        n.at? [.functionCallBody, .functionCallArgs, .functionCallArgs, .expr] := by
  rw [callArguments_eq fun m member => (orderly m member).lawful]
  simp only [at?_cons]
  cases found : n.child? .functionCallBody with
  | none => exact ⟨rfl, rfl⟩
  | some body =>
    cases below : body.child? .functionCallArgs with
    | none => simp [below]
    | some args =>
      have inside := (orderly.child (mem_children_of_child? found)).child
        (mem_children_of_child? below)
      simpa [below] using items_getLast? inside (kind_of_child? below)

end MetricQuery.Node
