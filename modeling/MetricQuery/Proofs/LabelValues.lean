import MetricQuery.Completion.Assembly
import MetricQuery.Proofs.CacheContents
import MetricQuery.Proofs.Flattening

/-!
Values of a label. Inside the value of a matcher one context applies. It names the label of the
matcher and the metric of the selector around it, and it carries the other matchers of this selector
in the order of the source. Which matcher is left out is decided by its place in the tree and not by
what it says. A completion there asks its client once, for these values.
-/

set_option autoImplicit false

namespace MetricQuery

namespace Rule

variable {k : NodeKind} {kinds : List NodeKind}

/-- Matchers stand in their list, and the brackets around it in a selector. -/
theorem holder_of_matchers (rule : Rule k kinds) :
    (.labelMatcher ∈ kinds → k = .labelMatchList) ∧
      (.labelMatchers ∈ kinds → k = .vectorSelector) := by
  cases rule with
  | query errors | queryExpr errors => grind
  | expr isForm => grind [NodeKind.isForm]
  | binModifiers flag clause both =>
    subst both
    grind [MatchingRule, GroupRule]
  | listStart own | listMore own => grind [ListRule, OperandKind]
  | body own known => grind [ListRule]
  | _ => grind [OperandKind]

end Rule

namespace Cursor

variable {c e : Cursor} {kind : NodeKind}

/-- What encloses a part that holds no expression encloses all that stands below it. -/
theorem Reaches.enclosing?_of_bare (way : e.Reaches c) (lawful : e.node.Everywhere Node.Lawful)
    (bare : e.kind.holdsExpr = false) (holds : kind.holdsExpr = true) :
    c.enclosing? kind = e.enclosing? kind := by
  induction way with
  | here => rfl
  | @down d c upper child ih =>
    have none := Node.bare_everywhere lawful bare c.node (upper.down child).mem_preorder
    have other : c.kind ≠ kind := by
      rintro rfl
      exact absurd (none.symm.trans holds) (by decide)
    rw [enclosing?_child child other, ih]

end Cursor

namespace SyntaxTree

variable {text : Text}

/-- Cursors into one tree are told apart by their paths. -/
theorem eq_of_path_eq {t : SyntaxTree} {c d : Cursor} (left : c ∈ t.cursors) (right : d ∈ t.cursors)
    (same : c.path = d.path) : c = d :=
  List.inj_on_of_nodup_map (Cursor.below_path_nodup t.cursor) left right same

/-- `c` stands in a list between the brackets `b` of a selector. -/
structure Holds (t : SyntaxTree) (selector b c : Cursor) : Prop where
  place : selector ∈ t.cursors
  isSelector : selector.kind = .vectorSelector
  child : b ∈ selector.children
  isBody : b.kind = .labelMatchers
  way : b.Reaches c
  listed : c.parentKind? = some .labelMatchList
  around : c.enclosing? .labelMatchers = some b
  nearest : c.enclosing? .vectorSelector = some selector

/-- Below a selector no other one starts. -/
theorem enclosing?_of_selector {selector c : Cursor} (place : selector ∈ (parse text).cursors)
    (isSelector : selector.kind = .vectorSelector) (way : selector.Reaches c) :
    c.enclosing? .vectorSelector = some selector := by
  rcases way.cases_child with rfl | ⟨e, child, lower⟩
  · exact Cursor.enclosing?_self isSelector
  · obtain ⟨made, inside⟩ := rule_of_child place child
    rw [isSelector] at made
    have bare : e.kind.holdsExpr = false ∧ e.kind ≠ .vectorSelector := by
      rcases made.of_vectorSelector.1 _ inside with same | same <;> simp [same, NodeKind.holdsExpr]
    have lawful : e.node.Everywhere Node.Lawful :=
      Node.Everywhere.below (parse_lawful text) (node_mem_nodes (mem_cursors_of_child place child))
    rw [lower.enclosing?_of_bare lawful bare.1 rfl, Cursor.enclosing?_child child bare.2,
      Cursor.enclosing?_self isSelector]

/-- Every node but the root is a part of another. -/
theorem exists_holder {c : Cursor} (place : c ∈ (parse text).cursors) (inner : c.kind ≠ .query) :
    ∃ d ∈ (parse text).cursors, c ∈ d.children ∧
      ∃ kinds, Rule d.kind kinds ∧ c.kind ∈ kinds := by
  cases mem_cursors_iff.mp place with
  | here => exact absurd (parse_wellFormed text).root_kind inner
  | @down d c upper child =>
    have above := mem_cursors_iff.mpr upper
    exact ⟨d, above, child, _, rule_of_child above child⟩

/-- Every matcher stands in the brackets of a selector. -/
theorem exists_holds {c : Cursor} (place : c ∈ (parse text).cursors)
    (isMatcher : c.kind = .labelMatcher) : ∃ selector b, (parse text).Holds selector b c := by
  obtain ⟨d, listPlace, child, kinds, made, inside⟩ := exists_holder place (by simp [isMatcher])
  have isList : d.kind = .labelMatchList := made.holder_of_matchers.1 (isMatcher ▸ inside)
  obtain ⟨b, bodyPlace, isBody, reaches, around, -⟩ := exists_body .matchers listPlace isList
  obtain ⟨selector, above, bodyChild, kinds, made, inside⟩ :=
    exists_holder bodyPlace (by simp [isBody])
  have isSelector : selector.kind = .vectorSelector :=
    made.holder_of_matchers.2 (isBody ▸ inside)
  have way := reaches.down child
  refine ⟨selector, b, above, isSelector, bodyChild, isBody, way, ?_, ?_, ?_⟩
  · rw [Cursor.parentKind?, Cursor.parent?_of_mem_children child, Option.map_some, isList]
  · rw [Cursor.enclosing?_child child (by simp [isMatcher]), around]
  · exact enclosing?_of_selector above isSelector ((Cursor.Reaches.here.down bodyChild).trans way)

/-- The matchers of a selector are all matchers that stand below it. -/
theorem Holds.mem_items_iff {selector b m : Cursor} (holds : (parse text).Holds selector b m)
    {c : Cursor} : c ∈ b.items .labelMatchList .labelMatcher ↔
      selector.Reaches c ∧ c.kind = .labelMatcher := by
  have bodyPlace := mem_cursors_of_child holds.place holds.child
  have down := Cursor.Reaches.here.down holds.child
  rw [SyntaxTree.mem_items_iff .matchers (by simp) bodyPlace holds.isBody]
  constructor
  · rintro ⟨place, isMatcher, -, around⟩
    obtain ⟨other, b', own⟩ := exists_holds place isMatcher
    obtain rfl : b' = b := Option.some.inj (own.around.symm.trans around)
    exact ⟨down.trans own.way, isMatcher⟩
  · rintro ⟨way, isMatcher⟩
    have place : c ∈ (parse text).cursors :=
      mem_cursors_iff.mpr ((mem_cursors_iff.mp holds.place).trans way)
    obtain ⟨other, b', own⟩ := exists_holds place isMatcher
    have nearest := enclosing?_of_selector holds.place holds.isSelector way
    obtain rfl : other = selector := Option.some.inj (own.nearest.symm.trans nearest)
    obtain ⟨made, -⟩ := rule_of_child holds.place holds.child
    rw [holds.isSelector] at made
    have once := List.nodup_iff_count_le_one.mp made.of_vectorSelector.2 .labelMatchers
    have same := (Cursor.child?_of_count once own.child own.isBody).symm.trans
      (Cursor.child?_of_count once holds.child holds.isBody)
    exact ⟨place, isMatcher, own.listed, own.around.trans same⟩

/-- What narrows the values of the label of a matcher: its name, the metric of the selector around
it, and the matchers beside it there, one after another. -/
structure Narrows (t : SyntaxTree) (m selector : Cursor) (others : List Cursor) (label : String)
    (metric : Option String) : Prop where
  place : selector ∈ t.cursors
  isSelector : selector.kind = .vectorSelector
  around : selector.Reaches m
  nearest : m.enclosing? .vectorSelector = some selector
  label : ∀ name, label = name ↔
    ∃ child ∈ m.node.children, child.kind = .labelName ∧ child.text t.text = name
  metric : ∀ name, metric = some name ↔
    ∃ part ∈ selector.node.children, part.kind = .metricIdentifier ∧
      ∃ identifier ∈ part.children, identifier.kind = .identifier ∧ identifier.text t.text = name
  ordered : others.Pairwise fun x y => x.node.start < y.node.start ∧ x.node.stop ≤ y.node.start
  mem_iff : ∀ c, c ∈ others ↔ selector.Reaches c ∧ c.kind = .labelMatcher ∧ c ≠ m

/-- The name of a selector is the identifier in its metric. -/
theorem metricNode?_eq_some_iff {n i : Node} (member : n ∈ (parse text).nodes)
    (isSelector : n.kind = .vectorSelector) :
    n.metricNode? = some i ↔ ∃ part ∈ n.children,
      part.kind = .metricIdentifier ∧ i ∈ part.children ∧ i.kind = .identifier := by
  have made := (parse_lawful text n member).rule_of_inner (by rw [isSelector]; rfl)
  rw [isSelector] at made
  have once := List.nodup_iff_count_le_one.mp made.of_vectorSelector.2 .metricIdentifier
  rw [Node.metricNode?, Node.at?_cons]
  simp only [Node.at?_singleton]
  constructor
  · intro found
    obtain ⟨part, isPart, isName⟩ := Option.bind_eq_some_iff.mp found
    exact ⟨part, Node.mem_children_of_child? isPart, Node.kind_of_child? isPart,
      Node.mem_children_of_child? isName, Node.kind_of_child? isName⟩
  · rintro ⟨part, child, isPart, inside, isName⟩
    have below := Node.mem_preorder_of_child member child
    have single := (parse_lawful text part below).rule_of_inner (by rw [isPart]; rfl)
    rw [isPart] at single
    rw [Node.child?_of_count once child isPart, Option.bind_some]
    exact Node.child?_of_count (by simp [single.of_metricIdentifier]) inside isName

/-- A matcher has one name. -/
theorem exists_labelName {n : Node} (member : n ∈ (parse text).nodes)
    (isMatcher : n.kind = .labelMatcher) :
    ∃ name, n.child? .labelName = some name ∧
      ∀ child, child ∈ n.children ∧ child.kind = .labelName ↔ child = name := by
  have made := (parse_lawful text n member).rule_of_inner (by rw [isMatcher]; rfl)
  rw [isMatcher] at made
  have once := made.of_labelMatcher
  have present : .labelName ∈ n.children.map Node.kind := List.count_pos_iff.mp (by omega)
  obtain ⟨name, child, isName⟩ := List.mem_map.mp present
  have found := Node.child?_of_count (by omega) child isName
  refine ⟨name, found, fun other => ⟨?_, ?_⟩⟩
  · rintro ⟨among, kind⟩
    exact Option.some.inj ((Node.child?_of_count (by omega) among kind).symm.trans found)
  · rintro rfl
    exact ⟨child, isName⟩

/-- What the brackets around a matcher hold, that matcher apart, narrows the values of its label. -/
theorem Holds.narrows {selector b m : Cursor} {name : Node}
    (holds : (parse text).Holds selector b m) (place : m ∈ (parse text).cursors)
    (named : ∀ child, child ∈ m.node.children ∧ child.kind = .labelName ↔ child = name) :
    (parse text).Narrows m selector
      ((b.items .labelMatchList .labelMatcher).filter (·.path != m.path))
      (name.text text) (selector.node.metricNode?.map (Node.text text)) where
  place := holds.place
  isSelector := holds.isSelector
  around := (Cursor.Reaches.here.down holds.child).trans holds.way
  nearest := holds.nearest
  label := by
    intro label
    constructor
    · rintro rfl
      obtain ⟨child, isName⟩ := (named name).mpr rfl
      exact ⟨name, child, isName, rfl⟩
    · rintro ⟨child, among, isName, rfl⟩
      rw [(named child).mp ⟨among, isName⟩]
      rfl
  metric := by
    intro label
    rw [Option.map_eq_some_iff]
    simp only [metricNode?_eq_some_iff (node_mem_nodes holds.place) holds.isSelector]
    constructor
    · rintro ⟨identifier, ⟨part, child, isPart, inside, isName⟩, rfl⟩
      exact ⟨part, child, isPart, identifier, inside, isName, rfl⟩
    · rintro ⟨part, child, isPart, identifier, inside, isName, rfl⟩
      exact ⟨identifier, ⟨part, child, isPart, inside, isName⟩, rfl⟩
  ordered := by
    have rule : ListRule b.kind .labelMatchList .labelMatcher := holds.isBody ▸ .matchers
    have body := mem_cursors_of_child holds.place holds.child
    exact (parse_flattens body rule (by simp)).ordered.filter _
  mem_iff := by
    intro c
    rw [List.mem_filter, holds.mem_items_iff, and_assoc]
    refine and_congr_right fun way => and_congr_right fun _ => ?_
    rw [bne_iff_ne, not_iff_not]
    refine ⟨fun same => ?_, fun same => congrArg Cursor.path same⟩
    have lower := mem_cursors_iff.mpr ((mem_cursors_iff.mp holds.place).trans way)
    exact eq_of_path_eq lower place same

end SyntaxTree

namespace Completion

variable {σ : Type}

/-- The matchers beside a matcher, when its brackets are known. -/
theorem otherMatchers_eq {text : Text} {selector b m : Cursor}
    (holds : (SyntaxTree.parse text).Holds selector b m) :
    otherMatchers text m =
      ((b.items .labelMatchList .labelMatcher).filter (·.path != m.path)).map fun c =>
        Matcher.ofNode text c.node := by
  have place := SyntaxTree.mem_cursors_of_child holds.place holds.child
  rw [otherMatchers, holds.around, Option.bind_some,
    SyntaxTree.items_of_body .matchers (by simp) place holds.isBody]
  cases b.child? .labelMatchList <;> rfl

/-- What applies inside the value of a matcher. -/
theorem analyze_labelValue {text : Text} {pos : Nat} {selector b m : Cursor} {name : Node}
    (isLiteral : ((SyntaxTree.parse text).resolve pos .before).kind = .stringLiteral)
    (up : ((SyntaxTree.parse text).resolve pos .before).parent? = some m)
    (isMatcher : m.kind = .labelMatcher)
    (holds : (SyntaxTree.parse text).Holds selector b m)
    (named : m.node.child? .labelName = some name) :
    let others := (b.items .labelMatchList .labelMatcher).filter (·.path != m.path)
    analyze (SyntaxTree.parse text) pos =
      [⟨.labelValue, selector.node.metricNode?.map (Node.text text), some (name.text text),
        if others = [] then none else some (others.map fun c => Matcher.ofNode text c.node)⟩] := by
  intro others
  have parent : ((SyntaxTree.parse text).resolve pos .before).parentKind? = some .labelMatcher := by
    rw [Cursor.parentKind?, up, Option.map_some, isMatcher]
  change contexts text ((SyntaxTree.parse text).resolve pos .before) pos = _
  simp only [Cursor.kind] at isLiteral
  simp only [contexts, isLiteral, parent, ↓reduceIte, labelValue, up, metricName?, holds.nearest,
    Option.bind_some, named, Option.map_some, otherMatchers_eq holds, Context.nonEmpty,
    List.isEmpty_map, List.isEmpty_iff]
  rfl

theorem labels_state (fetched : Except Fault (List String) × σ) :
    (labels fetched).state = fetched.2 := by
  obtain ⟨answer, after⟩ := fetched
  cases answer <;> rfl

/-- Where the values of a label are all that fits, the client is asked for them and nothing else. -/
theorem complete_state (client : MetadataClient σ) (limit : Nat) {text : Text} {pos : Nat}
    {label : String} {metric : Option String} {matchers : Option (List Matcher)}
    (within : pos ≤ Text.size text)
    (found : analyze (SyntaxTree.parse text) pos = [⟨.labelValue, metric, some label, matchers⟩])
    (s : σ) :
    (complete (some client) limit text pos s).state =
      (client.ask (.labelValues label metric matchers) s).2 := by
  change contexts text ((SyntaxTree.parse text).resolve pos .before) pos = _ at found
  simp only [complete, Nat.min_eq_left within, found, assemble, gather, candidates, labels_state]

/-- Inside the value of a matcher one context applies: it asks for values of the label of this
matcher, on series of the metric of the selector around it that satisfy the other matchers of this
selector. A completion there makes one query to its client, and it is this one. -/
theorem complete_labelValue (text : Text) (pos : Nat) {m : Cursor}
    (isLiteral : ((SyntaxTree.parse text).resolve pos .before).kind = .stringLiteral)
    (up : ((SyntaxTree.parse text).resolve pos .before).parent? = some m)
    (isMatcher : m.kind = .labelMatcher) :
    ∃ selector others label metric matchers,
      (SyntaxTree.parse text).Narrows m selector others label metric ∧
      matchers = (if others = [] then none
        else some (others.map fun c => Matcher.ofNode text c.node)) ∧
      analyze (SyntaxTree.parse text) pos = [⟨.labelValue, metric, some label, matchers⟩] ∧
      ∀ (σ : Type) (client : MetadataClient σ) (limit : Nat) (fetched : List Fetch) (s : σ),
        (complete (some client.recording) limit text pos (fetched, s)).state =
          (fetched ++ [⟨.labelValues label metric matchers,
            (client.ask (.labelValues label metric matchers) s).1⟩],
            (client.ask (.labelValues label metric matchers) s).2) := by
  have formed := SyntaxTree.parse_wellFormed text
  have member := SyntaxTree.resolve_mem text pos .before
  have place := SyntaxTree.parent_mem_cursors member up
  have within : pos ≤ Text.size text := by
    have other : ((SyntaxTree.parse text).resolve pos .before).kind ≠ .query := by simp [isLiteral]
    have covers := (SyntaxTree.resolve_start_lt formed.root_kind other).2
    exact Nat.le_trans covers (formed.ordered _ (SyntaxTree.node_mem_nodes member)).2
  obtain ⟨selector, b, holds⟩ := SyntaxTree.exists_holds place isMatcher
  obtain ⟨name, found, named⟩ :=
    SyntaxTree.exists_labelName (SyntaxTree.node_mem_nodes place) isMatcher
  have context := analyze_labelValue isLiteral up isMatcher holds found
  refine ⟨selector, _, _, _, _, holds.narrows place named, rfl, context, ?_⟩
  intro σ client limit fetched s
  exact complete_state client.recording limit within context (fetched, s)

/-- Of two matchers that say the same, the one around the position is left out. -/
theorem complete_labelValue_repeated :
    let text := "foo\x7ba=\"x\",a=\"x\",b!=\"y\"\x7d".toList
    let matchers : List Matcher := [⟨.eqlSingle, "a", "x"⟩, ⟨.neq, "b", "y"⟩]
    ∃ m selector others,
      ((SyntaxTree.parse text).resolve 14 .before).kind = .stringLiteral ∧
      ((SyntaxTree.parse text).resolve 14 .before).parent? = some m ∧
      m.kind = .labelMatcher ∧ Matcher.ofNode text m.node = ⟨.eqlSingle, "a", "x"⟩ ∧
      (SyntaxTree.parse text).Narrows m selector others "a" (some "foo") ∧
      others.map (fun c => Matcher.ofNode text c.node) = matchers ∧
      ∀ (σ : Type) (client : MetadataClient σ) (limit : Nat) (fetched : List Fetch) (s : σ),
        (complete (some client.recording) limit text 14 (fetched, s)).state =
          (fetched ++ [⟨.labelValues "a" (some "foo") (some matchers),
            (client.ask (.labelValues "a" (some "foo") (some matchers)) s).1⟩],
            (client.ask (.labelValues "a" (some "foo") (some matchers)) s).2) := by
  intro text matchers
  have isLiteral : ((SyntaxTree.parse text).resolve 14 .before).kind = .stringLiteral := by
    decide +kernel
  have around : ((SyntaxTree.parse text).resolve 14 .before).parent?.map
      (fun m => (m.kind, Matcher.ofNode text m.node)) =
        some (.labelMatcher, ⟨.eqlSingle, "a", "x"⟩) := by
    decide +kernel
  have context : analyze (SyntaxTree.parse text) 14 =
      [⟨.labelValue, some "foo", some "a", some matchers⟩] := by
    decide +kernel
  obtain ⟨m, up, both⟩ := Option.map_eq_some_iff.mp around
  obtain ⟨isMatcher, own⟩ := Prod.mk.inj both
  obtain ⟨selector, others, label, metric, found, narrows, given, analyzed, asked⟩ :=
    complete_labelValue text 14 isLiteral up isMatcher
  rw [context] at analyzed
  cases analyzed
  refine ⟨m, selector, others, isLiteral, up, isMatcher, own, narrows, ?_, asked⟩
  split at given
  · cases given
  · exact (Option.some.inj given).symm

end Completion

end MetricQuery
