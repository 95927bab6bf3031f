import MetricQuery.Completion.Analysis
import MetricQuery.Proofs.Arguments
import MetricQuery.Proofs.WellFormed

/-!
The analysis of a position with every cut of the text checked: a node whose range is no slice of the
text has no text, and what needs it has no answer. At every node of a parsed text the checked
analysis has an answer, the one that the analysis gives.
-/

set_option autoImplicit false

namespace MetricQuery

/-- The source text a node covers; nothing when its range is no slice of the source. -/
def Node.text? (source : Text) (n : Node) : Option String :=
  (Text.slice? source n.start n.stop).map String.ofList

/-- Takes in one child of a matcher node; its name and its value are cut out of the source. -/
def Matcher.extend? (source : Text) (m : Matcher) (child : Node) : Option Matcher :=
  match child.kind with
  | .labelName => (child.text? source).map fun name => { m with name := name }
  | .stringLiteral =>
    (child.text? source).map fun literal =>
      { m with value := String.ofList (Text.unquote literal.toList) }
  | _ => some (m.extend source child)

/-- The matcher of a node, if all of it can be cut out of the source. -/
def Matcher.ofNode? (source : Text) (n : Node) : Option Matcher :=
  n.children.foldlM (extend? source) ⟨.eqlSingle, "", ""⟩

/-- Whether an expression is nothing but a metric name spelled like an aggregation. -/
def Node.isBareAggregator? (source : Text) (n : Node) : Option Bool :=
  match n.first?.filter (·.kind == .vectorSelector) with
  | some selector =>
    match selector.metricNode? with
    | some metric =>
      if selector.children.length == 1 then
        (metric.text? source).map fun name => (Aggregator.ofName? name).isSome
      else some false
    | none => some false
  | none => some false

namespace Completion

/-- An identifier that fits nowhere. -/
def strayIdentifier? (source : Text) (identifier : Cursor) : Option (List Context) :=
  match identifier.parent? with
  | none => some []
  | some error =>
    if error.parentKind? = some .aggregateExpr then some (ofKinds [.aggregateOpModifier, .binOp])
    else
      match precedingExpr? error with
      | none => some []
      | some expr =>
        (expr.isBareAggregator? source).map fun bare =>
          ofKinds (if bare then [.aggregateOpModifier] else []) ++ continuation expr

/-- The name of a metric, or the start of something else. -/
def metricIdentifier? (source : Text) (identifier : Cursor) : Option (List Context) :=
  let modifier : List ContextKind :=
    match identifier.ancestor? 4 with
    | some c => if inRightOperand identifier.node c.node then [.binOpModifier] else []
    | none => []
  (identifier.node.text? source).map fun name =>
    { Context.ofKind .metricName with metric := some name } ::
      ofKinds ([.function, .aggregation] ++ modifier)

/-- The metric name of the selector around a node, where there is one. -/
def metricNameIn? (source : Text) (c : Cursor) : Option (Option String) :=
  match (c.enclosing? .vectorSelector).bind fun selector => selector.node.metricNode? with
  | some metric => (metric.text? source).map some
  | none => some none

/-- A label name within the selector around a node. -/
def labelName? (source : Text) (c : Cursor) : Option (List Context) :=
  (metricNameIn? source c).map fun metric =>
    [{ Context.ofKind .labelName with metric := metric }]

/-- The matchers of the selector around a matcher, that one apart. -/
def otherMatchers? (source : Text) (matcher : Cursor) : Option (List Matcher) :=
  match (matcher.enclosing? .labelMatchers).bind fun c => c.child? .labelMatchList with
  | some list =>
    ((list.items .labelMatchList .labelMatcher).filter (·.path != matcher.path)).mapM fun m =>
      Matcher.ofNode? source m.node
  | none => some []

/-- The name in a matcher, where it has one. -/
def labelIn? (source : Text) (matcher : Node) : Option (Option String) :=
  match matcher.child? .labelName with
  | some label => (label.text? source).map some
  | none => some none

/-- A value of the label of the matcher around a literal. -/
def labelValue? (source : Text) (literal : Cursor) : Option (List Context) :=
  match literal.parent? with
  | none => some []
  | some matcher => do
    let metric ← metricNameIn? source matcher
    let label ← labelIn? source matcher.node
    let others ← otherMatchers? source matcher
    return [{ kind := .labelValue
              metric := metric
              label := label
              matchers := Context.nonEmpty others }]

/-- The contexts that apply at `pos`, every cut checked. Only the kinds that are named cut out the
text of a node; elsewhere at most a gap is looked at, which may be no slice. -/
def contexts? (source : Text) (c : Cursor) (pos : Nat) : Option (List Context) :=
  let n := c.node
  let parent := c.parentKind?
  match n.kind with
  | .identifier =>
    match parent with
    | some .error => strayIdentifier? source c
    | some .metricIdentifier => metricIdentifier? source c
    | _ => some (contexts source c pos)
  | .labelName =>
    if parent = some .labelMatcher then labelName? source c else some (contexts source c pos)
  | .labelMatchers => labelName? source c
  | .stringLiteral => if parent = some .labelMatcher then labelValue? source c else some []
  | .matrixSelector | .subqueryExpr =>
    if pos = n.stop then
      (n.text? source).map fun text =>
        if text.toList.getLast? = some ']' then continuation n else ofKinds [.duration]
    else some (ofKinds [.duration])
  | _ => some (contexts source c pos)

end Completion

/-- A node whose range is a slice of the source. -/
def Node.IsSlice (source : Text) (n : Node) : Prop := n.text? source = some (n.text source)

theorem Node.isSlice_iff {source : Text} {n : Node} :
    n.IsSlice source ↔ (Text.slice? source n.start n.stop).isSome = true := by
  unfold IsSlice text? text Text.sliceString
  cases Text.slice? source n.start n.stop with
  | none => simp
  | some middle => simp

/-- A cursor every node below, above and beside which is a slice of the source. -/
structure Cursor.OnSlices (source : Text) (c : Cursor) : Prop where
  node : c.node.Everywhere (Node.IsSlice source)
  above : ∀ f ∈ c.frames, f.parent.Everywhere (Node.IsSlice source)

namespace Cursor.OnSlices

variable {source : Text} {c d : Cursor}

theorem child (slices : c.OnSlices source) (below : d ∈ c.children) : d.OnSlices source := by
  obtain ⟨index, found, frames⟩ := mem_children.mp below
  refine ⟨slices.node.child (List.mem_of_getElem? found), ?_⟩
  rw [frames]
  exact List.forall_mem_cons.mpr ⟨slices.node, slices.above⟩

theorem reaches (slices : c.OnSlices source) (way : c.Reaches d) : d.OnSlices source := by
  induction way with
  | here => exact slices
  | down _ below above => exact above.child below

theorem parent (slices : c.OnSlices source) (up : c.parent? = some d) : d.OnSlices source := by
  obtain ⟨node, frames⟩ := c
  cases frames with
  | nil => cases up
  | cons f fs =>
    cases up
    have above := List.forall_mem_cons.mp slices.above
    exact ⟨above.1, above.2⟩

theorem prev (slices : c.OnSlices source) (before : c.prev? = some d) : d.OnSlices source := by
  obtain ⟨node, frames⟩ := c
  cases frames with
  | nil => cases before
  | cons f fs =>
    have parent : OnSlices source ⟨f.parent, fs⟩ := slices.parent rfl
    simp only [prev?] at before
    split at before
    · cases before
    · refine parent.child ?_
      rw [← getElem?_children] at before
      exact List.mem_of_getElem? before

theorem enclosing {kind : NodeKind} (slices : c.OnSlices source)
    (found : c.enclosing? kind = some d) : d.OnSlices source := by
  obtain ⟨node, frames⟩ := c
  unfold enclosing? at found
  induction frames generalizing node with
  | nil =>
    simp only [enclosing?.go] at found
    split at found
    · cases found
      exact slices
    · cases found
  | cons f fs ih =>
    simp only [enclosing?.go] at found
    split at found
    · cases found
      exact slices
    · exact ih f.parent (slices.parent rfl) found

/-- The items of a list stand below it. -/
theorem items {list item : NodeKind} (slices : c.OnSlices source)
    (member : d ∈ c.items list item) : d.OnSlices source := by
  have last : ∀ e f : Cursor, f ∈ (e.last?.filter (·.kind == item)).toList → f ∈ e.children := by
    intro e f found
    have last := (Option.filter_eq_some_iff.mp (Option.mem_toList.mp found)).1
    exact List.mem_of_getLast? last
  fun_induction Cursor.items list item c with
  | case1 c own inner found ih =>
    rcases List.mem_append.mp member with earlier | final
    · exact ih (slices.child (List.mem_of_find?_eq_some found)) earlier
    · exact slices.child (last c d final)
  | case2 c own _ => exact slices.child (last c d member)

end Cursor.OnSlices

section Cuts

variable {source : Text}

theorem Node.Everywhere.text? {n : Node} (slices : n.Everywhere (Node.IsSlice source)) :
    n.text? source = some (n.text source) := Everywhere.top slices

theorem Matcher.extend?_eq (m : Matcher) {child : Node}
    (slices : child.Everywhere (Node.IsSlice source)) :
    m.extend? source child = some (m.extend source child) := by
  unfold extend?
  split
  · rename_i kind
    simp only [slices.text?, Option.map_some, extend, kind]
  · rename_i kind
    simp only [slices.text?, Option.map_some, extend, kind]
  · rfl

theorem Matcher.ofNode?_eq {n : Node} (slices : n.Everywhere (Node.IsSlice source)) :
    Matcher.ofNode? source n = some (Matcher.ofNode source n) := by
  have each : ∀ c ∈ n.children, c.Everywhere (Node.IsSlice source) := fun c child =>
    slices.child child
  unfold ofNode? ofNode
  generalize Matcher.mk .eqlSingle "" "" = m
  generalize n.children = children at each
  induction children generalizing m with
  | nil => rfl
  | cons c cs ih =>
    rw [List.forall_mem_cons] at each
    rw [List.foldlM_cons, extend?_eq m each.1]
    exact ih (m.extend source c) each.2

/-- What a path leads to stands below where it starts. -/
theorem Node.Everywhere.at? {P : Node → Prop} {n m : Node} {path : List NodeKind}
    (all : n.Everywhere P) (found : n.at? path = some m) : m.Everywhere P := by
  induction path generalizing n with
  | nil =>
    cases found
    exact all
  | cons kind path ih =>
    rw [Node.at?_cons, Option.bind_eq_some_iff] at found
    obtain ⟨c, step, found⟩ := found
    exact ih (all.child (mem_children_of_child? step)) found

theorem Node.isBareAggregator?_eq {n : Node} (slices : n.Everywhere (Node.IsSlice source)) :
    n.isBareAggregator? source = some (n.isBareAggregator source) := by
  unfold isBareAggregator? isBareAggregator
  cases found : n.first?.filter (·.kind == .vectorSelector) with
  | none => rfl
  | some selector =>
    have first := (Option.filter_eq_some_iff.mp found).1
    have inner : selector.Everywhere (IsSlice source) :=
      slices.child (List.mem_of_mem_head? first)
    cases named : selector.metricNode? with
    | none => simp [named]
    | some metric =>
      have name := (inner.at? named).text?
      cases alone : selector.children.length == 1 with
      | true => simp [alone, name, named]
      | false => simp [alone, named]

namespace Completion

/-- The expression before an error stands beside it or below its sibling. -/
theorem precedingExpr?_onSlices {error : Cursor} {expr : Node} (slices : error.OnSlices source)
    (found : precedingExpr? error = some expr) : expr.Everywhere (Node.IsSlice source) := by
  obtain ⟨before, isBefore, ends⟩ := Option.bind_eq_some_iff.mp found
  have beside := (slices.prev isBefore).node
  unfold Node.endingExpr? at ends
  split at ends
  · cases ends
    exact beside
  · have last := (Option.filter_eq_some_iff.mp ends).1
    exact beside.child (List.mem_of_getLast? last)
  · cases ends

variable {c : Cursor} (slices : c.OnSlices source)

include slices

theorem strayIdentifier?_eq : strayIdentifier? source c = some (strayIdentifier source c) := by
  unfold strayIdentifier? strayIdentifier
  cases up : c.parent? with
  | none => rfl
  | some error =>
    dsimp only
    split
    · rfl
    · cases found : precedingExpr? error with
      | none => rfl
      | some expr =>
        have exprSlices := precedingExpr?_onSlices (slices.parent up) found
        simp only [Node.isBareAggregator?_eq exprSlices, Option.map_some]

theorem metricIdentifier?_eq : metricIdentifier? source c = some (metricIdentifier source c) := by
  unfold metricIdentifier? metricIdentifier
  rw [slices.node.text?]
  rfl

theorem metricNameIn?_eq : metricNameIn? source c = some (metricName? source c) := by
  unfold metricNameIn? metricName?
  cases found : c.enclosing? .vectorSelector with
  | none => rfl
  | some selector =>
    have inner := (slices.enclosing found).node
    cases named : selector.node.metricNode? with
    | none => simp [named]
    | some metric => simp [named, (inner.at? named).text?]

theorem labelName?_eq : labelName? source c = some (labelName source c) := by
  unfold labelName? labelName
  rw [metricNameIn?_eq slices]
  rfl

theorem otherMatchers?_eq : otherMatchers? source c = some (otherMatchers source c) := by
  unfold otherMatchers? otherMatchers
  cases found : (c.enclosing? .labelMatchers).bind fun c => c.child? .labelMatchList with
  | none => rfl
  | some list =>
    obtain ⟨matchers, outer, inner⟩ := Option.bind_eq_some_iff.mp found
    have listSlices := (slices.enclosing outer).child (List.mem_of_find?_eq_some inner)
    have each : ∀ m ∈ (list.items .labelMatchList .labelMatcher).filter (·.path != c.path),
        Matcher.ofNode? source m.node = some (Matcher.ofNode source m.node) := by
      intro m member
      exact Matcher.ofNode?_eq (listSlices.items (List.mem_filter.mp member).1).node
    dsimp only
    generalize (list.items .labelMatchList .labelMatcher).filter (·.path != c.path) = ms at each
    induction ms with
    | nil => rfl
    | cons m ms ih =>
      rw [List.forall_mem_cons] at each
      rw [List.mapM_cons, each.1, ih each.2]
      rfl

theorem labelIn?_eq :
    labelIn? source c.node = some ((c.node.child? .labelName).map (Node.text source)) := by
  unfold labelIn?
  cases found : c.node.child? .labelName with
  | none => rfl
  | some label =>
    have inner := slices.node.child (Node.mem_children_of_child? found)
    simp only [inner.text?, Option.map_some]

theorem labelValue?_eq : labelValue? source c = some (labelValue source c) := by
  unfold labelValue? labelValue
  cases up : c.parent? with
  | none => rfl
  | some matcher =>
    have above := slices.parent up
    dsimp only
    rw [metricNameIn?_eq above, labelIn?_eq above, otherMatchers?_eq above]
    rfl

/-- Where every node is a slice, no cut fails. -/
theorem contexts?_eq (pos : Nat) : contexts? source c pos = some (contexts source c pos) := by
  unfold contexts?
  dsimp only
  split
  · rename_i kind
    split
    · rename_i parent
      simp only [strayIdentifier?_eq slices, contexts, kind, parent]
    · rename_i parent
      simp only [metricIdentifier?_eq slices, contexts, kind, parent]
    · rfl
  · rename_i kind
    split
    · rename_i parent
      simp only [labelName?_eq slices, contexts, kind, parent]
    · rfl
  · rename_i kind
    simp only [labelName?_eq slices, contexts, kind]
  · rename_i kind
    by_cases parent : c.parentKind? = some .labelMatcher
    · simp only [labelValue?_eq slices, contexts, kind, parent, ↓reduceIte]
    · simp only [contexts, kind, parent, ↓reduceIte]
  · rename_i kind
    by_cases atEnd : pos = c.node.stop
    · simp only [contexts, kind, slices.node.text?, Option.map_some, atEnd, true_and, ↓reduceIte]
    · simp only [contexts, kind, atEnd, false_and, ↓reduceIte]
  · rename_i kind
    by_cases atEnd : pos = c.node.stop
    · simp only [contexts, kind, slices.node.text?, Option.map_some, atEnd, true_and, ↓reduceIte]
    · simp only [contexts, kind, atEnd, false_and, ↓reduceIte]
  · rfl

end Completion

end Cuts

/-- Every node of a parsed text is a slice of it. -/
theorem SyntaxTree.parse_onSlices (text : Text) {c : Cursor} (place : c ∈ (parse text).cursors) :
    c.OnSlices text := by
  have formed := parse_wellFormed text
  have root : (parse text).cursor.OnSlices text := by
    refine ⟨fun n member => ?_, by simp [cursor, Cursor.ofRoot]⟩
    exact Node.isSlice_iff.mpr (formed.readable n member)
  exact root.reaches (mem_cursors_iff.mp place)

end MetricQuery
