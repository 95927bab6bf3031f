import MetricQuery.Proofs.AfterExpression
import MetricQuery.Proofs.ReplacedBrackets

/-!
Lists that are still open. A list of labels or matchers ends with the last token that was read for
it. Right behind that token the list is what the position resolves to, and label names are
suggested; a blank further the position is outside, and they are not.
-/

set_option autoImplicit false

namespace MetricQuery

/-- Every token left starts by `bound`, commas apart ends by it, and the last one is a bracket or a
separator, so that nothing is missing at the end of the input. -/
structure Stream.Capped (bound : Nat) (s : Stream) : Prop where
  order : s.InOrder
  starts : ∀ t ∈ s.rest, t.start ≤ bound
  stops : ∀ t ∈ s.rest, t.kind ≠ .comma → t.stop ≤ bound
  final : ∀ t, s.rest.getLast? = some t → t.kind.isPunctuation = true

namespace Stream.Capped

variable {bound : Nat} {s after : Stream}

theorem later (capped : s.Capped bound) (leads : s.LeadsTo after) : after.Capped bound := by
  obtain ⟨front, split⟩ := leads.suffix
  refine ⟨leads.inOrder capped.order, ?_, ?_, ?_⟩
  · exact fun t member => capped.starts t (split ▸ List.mem_append_right front member)
  · exact fun t member => capped.stops t (split ▸ List.mem_append_right front member)
  · intro t last
    apply capped.final
    rw [← split, List.getLast?_append, last]
    rfl

/-- Something follows what is neither a bracket nor a separator. -/
theorem more (capped : s.Capped bound) (some : s.rest ≠ []) (loud : s.kind.isPunctuation = false) :
    s.advance.rest ≠ [] := by
  obtain ⟨t, rest, next⟩ := List.exists_cons_of_ne_nil some
  rw [rest_advance, next, List.tail_cons]
  rintro rfl
  have silent := capped.final t (by rw [next]; rfl)
  rw [kind_of_rest next, silent] at loud
  cases loud

theorem leaf_stop_le (capped : s.Capped bound) (some : s.rest ≠ []) (other : s.kind ≠ .comma)
    (kind : NodeKind) : (s.leaf kind).1.stop ≤ bound := by
  obtain ⟨t, rest, next⟩ := List.exists_cons_of_ne_nil some
  have wide := capped.order.current_lt some
  rw [kind_of_rest next] at other
  have stop := capped.stops t (by simp [next]) other
  rw [current_cons next] at wide
  simp only [Stream.leaf, Node.leaf_stop, current_cons next]
  omega

theorem missing_stop_le (capped : s.Capped bound) (some : s.rest ≠ []) :
    s.missing.stop ≤ bound := by
  obtain ⟨t, rest, next⟩ := List.exists_cons_of_ne_nil some
  have start := capped.starts t (by simp [next])
  simp only [Stream.missing, Node.leaf_stop, current_cons next]
  omega

end Stream.Capped

namespace Parser

variable {bound : Nat} {s : Stream}

theorem matcherValue_stop_le (capped : s.Capped bound) (some : s.rest ≠ []) :
    (matcherValue s).1.stop ≤ bound := by
  unfold matcherValue
  split
  · rename_i found
    exact capped.leaf_stop_le some (by simp [found]) _
  · exact capped.missing_stop_le some
  · exact capped.missing_stop_le some
  · exact capped.missing_stop_le some
  · rename_i other _ _
    exact capped.leaf_stop_le some other _

theorem comparison_stop_le (capped : s.Capped bound) (some : s.rest ≠ []) :
    ∀ n ∈ (comparison s).1, n.stop ≤ bound := by
  unfold comparison
  split
  · rename_i op found
    have loud : s.kind.isPunctuation = false := by
      simpa [NodeKind.standsFor] using standsFor_of_matchOp? found op
    have other : s.kind ≠ .comma := by
      intro comma
      rw [comma] at loud
      cases loud
    obtain ⟨more, valid⟩ := kind_of_matchOp? found
    have next := capped.later (.read (.refl s) (.token 0 (.matchSymbol op) rfl more valid))
    have symbol := capped.leaf_stop_le some other (.matchSymbol op)
    have value := matcherValue_stop_le next (capped.more some loud)
    refine List.forall_mem_cons.mpr ⟨?_, List.forall_mem_singleton.mpr value⟩
    rwa [Node.wrap_stop .matchOp (Nat.le_max_right _ _)]
  · split
    · exact List.forall_mem_singleton.mpr (capped.missing_stop_le some)
    · exact List.forall_mem_singleton.mpr (capped.missing_stop_le some)
    · exact List.forall_mem_singleton.mpr (capped.missing_stop_le some)
    · exact List.forall_mem_singleton.mpr (capped.missing_stop_le some)
    · rename_i other _ more _
      have error := capped.leaf_stop_le some other .error
      have next := capped.later (.read (.refl s) (.errorLeaf 0 more))
      dsimp only [Stream.leaf] at error ⊢
      split
      · rename_i found
        have value := next.leaf_stop_le (rest_ne_nil (by simp [found])) (by simp [found])
          .stringLiteral
        exact List.forall_mem_cons.mpr ⟨error, List.forall_mem_singleton.mpr value⟩
      · exact List.forall_mem_singleton.mpr error

/-- A matcher does not take the comma behind it, and misses nothing behind the last token. -/
theorem labelMatcher_stop_le (capped : s.Capped bound) {name : String}
    (found : s.kind = .ident name) : (labelMatcher s).1.stop ≤ bound := by
  have some : s.rest ≠ [] := rest_ne_nil (by simp [found])
  have label := capped.leaf_stop_le some (by simp [found]) .labelName
  have next := capped.later (.read (.refl s) (.ident 0 .labelName rfl found))
  have values := comparison_stop_le next (capped.more some (by rw [found]; rfl))
  apply Node.branch_stop_le
  · have wide : (s.leaf .labelName).1.start ≤ (s.leaf .labelName).1.stop := Nat.le_max_right _ _
    exact Nat.le_trans wide label
  · exact label
  · exact List.forall_mem_cons.mpr ⟨label, values⟩

/-- An item of a list ends by `bound`; whatever is stray is an error over one token. -/
def Part.Capped (bound : Nat) (s : Stream) : Part → Prop
  | .item n => n.start ≤ n.stop ∧ n.stop ≤ bound
  | .stray n => ∃ t ∈ s.rest, n = .leaf .error t.start t.stop

theorem Part.Capped.mono {part : Part} {after : Stream} (leads : s.LeadsTo after)
    (capped : part.Capped bound after) : part.Capped bound s := by
  cases part with
  | item n => exact capped
  | stray n =>
    obtain ⟨t, member, same⟩ := capped
    exact ⟨t, leads.suffix.subset member, same⟩

theorem errorLeaf_capped (more : s.kind ≠ .endOfInput) :
    (Part.stray (s.leaf .error).1).Capped bound s := by
  obtain ⟨t, rest, next⟩ := Stream.rest_of_kind more
  refine ⟨t, by simp [next], ?_⟩
  rw [Stream.leaf, Stream.current_cons next]

theorem groupingParts_capped (capped : s.Capped bound) (steps : Nat) :
    ∀ part ∈ (groupingParts steps s).1, part.Capped bound s := by
  induction steps generalizing s with
  | zero => exact List.forall_mem_nil _
  | succ steps ih =>
    rw [groupingParts]
    split
    · exact List.forall_mem_nil _
    · exact List.forall_mem_nil _
    · rename_i name found
      have label := capped.leaf_stop_le (rest_ne_nil (by simp [found])) (by simp [found]) .labelName
      have leads : s.LeadsTo (s.advance.skip .comma) :=
        .read (.read (.refl s) (.ident 0 .labelName rfl found)) (.skip s.advance .comma rfl)
      refine List.forall_mem_cons.mpr ⟨⟨?_, ?_⟩, fun part member => ?_⟩
      · exact Node.branch_start_le_stop _ _ _ _
      · rwa [Node.wrap_stop .groupingLabel (Nat.le_max_right _ _)]
      · exact (ih (capped.later leads) part member).mono leads
    · rename_i more _
      have leads : s.LeadsTo s.advance := .read (.refl s) (.errorLeaf 0 more)
      refine List.forall_mem_cons.mpr ⟨errorLeaf_capped more, fun part member => ?_⟩
      exact (ih (capped.later leads) part member).mono leads

theorem matcherParts_capped (capped : s.Capped bound) (steps : Nat) :
    ∀ part ∈ (matcherParts steps s).1, part.Capped bound s := by
  induction steps generalizing s with
  | zero => exact List.forall_mem_nil _
  | succ steps ih =>
    rw [matcherParts]
    split
    · exact List.forall_mem_nil _
    · exact List.forall_mem_nil _
    · rename_i name found
      have leads : s.LeadsTo ((labelMatcher s).2.skip .comma) :=
        .read (.read (.refl s) (labelMatcher_reads 0 found)) (.skip _ .comma rfl)
      refine List.forall_mem_cons.mpr ⟨⟨?_, ?_⟩, fun part member => ?_⟩
      · exact Node.branch_start_le_stop _ _ _ _
      · exact labelMatcher_stop_le capped found
      · exact (ih (capped.later leads) part member).mono leads
    · rename_i more _
      have leads : s.LeadsTo s.advance := .read (.refl s) (.errorLeaf 0 more)
      refine List.forall_mem_cons.mpr ⟨errorLeaf_capped more, fun part member => ?_⟩
      exact (ih (capped.later leads) part member).mono leads

/-- What stands between the brackets of a list ends by `bound` or is an error over one token. -/
theorem listChildren_capped {list : NodeKind} {parts : List Part}
    (capped : ∀ part ∈ parts, part.Capped bound s) :
    ∀ c ∈ listChildren list parts,
      c.stop ≤ bound ∨ ∃ t ∈ s.rest, c = .leaf .error t.start t.stop := by
  intro c child
  rcases mem_listChildren.mp child with isList | isStray
  · have around := chain_encloses isList fun i member => (capped _ (mem_items.mp member)).1
    obtain ⟨last, isLast, stop⟩ := around.stop
    left
    rw [stop]
    exact (capped _ (mem_items.mp isLast)).2
  · exact .inr (capped _ isStray)

end Parser

/-- Whether a kind is that of a list of labels or matchers. -/
def NodeKind.listsLabels : NodeKind → Bool
  | .labelMatchers | .groupingLabels => true
  | _ => false

/-- A list of labels or matchers starts with its bracket; what stands in it follows that. -/
theorem Node.Arises.labels {input : Stream} {n : Node} (arises : n.Arises input)
    (order : input.InOrder) (lists : n.kind.listsLabels = true) :
    ∃ s after list parts, input.LeadsTo s ∧ s.rest ≠ [] ∧ s.LeadsTo s.advance ∧
      s.advance.LeadsTo after ∧ n.start = s.current.start ∧
      n = .branch n.kind s.current.start after.last (Parser.listChildren list parts) ∧
      (s.advance.rest = [] → parts = []) ∧
      ∀ bound, s.advance.Capped bound → ∀ part ∈ parts, part.Capped bound s.advance := by
  unfold NodeKind.listsLabels at lists
  unfold Arises at arises
  split at lists
  · rename_i kind
    rw [kind] at arises
    obtain ⟨s, leads, opens, rfl⟩ := arises
    refine ⟨s, _, .labelMatchList, _, leads, Parser.rest_ne_nil (by simp [opens]),
      ⟨_, .punctuation (by rw [opens]; rfl)⟩,
      ⟨_, Parser.matcherParts_reads 0 s.advance.rest.length s.advance⟩,
      Parser.start_of_reads (Parser.labelMatchers_reads 0 opens) (leads.inOrder order), rfl, ?_,
      fun bound capped => Parser.matcherParts_capped capped _⟩
    intro none
    rw [none]
    rfl
  · rename_i kind
    rw [kind] at arises
    obtain ⟨s, leads, opens, rfl⟩ := arises
    refine ⟨s, _, .groupingLabelList, _, leads, Parser.rest_ne_nil (by simp [opens]),
      ⟨_, .punctuation (by rw [opens]; rfl)⟩,
      ⟨_, Parser.groupingParts_reads 0 s.advance.rest.length s.advance⟩,
      Parser.groupingLabels_start (leads.inOrder order) opens, rfl, ?_,
      fun bound capped => Parser.groupingParts_capped capped _⟩
    intro none
    rw [none]
    rfl
  · cases lists

/-- Where reading stopped is bounded by where it began and by the tokens there were. -/
theorem Stream.LeadsTo.last_le_of_stops {s after : Stream} {bound : Nat} (leads : s.LeadsTo after)
    (first : s.last ≤ bound) (stops : ∀ t ∈ s.rest, t.stop ≤ bound) : after.last ≤ bound := by
  obtain ⟨forest, read⟩ := leads
  obtain ⟨ts, rest, -, last⟩ := read.consumed
  rw [last]
  cases found : ts.getLast? with
  | none => exact first
  | some t =>
    apply stops
    rw [rest]
    exact List.mem_append_left _ (List.mem_of_getLast? found)

theorem Rule.of_error {kinds : List NodeKind} (rule : Rule .error kinds) :
    kinds = [.identifier] := by
  cases rule with
  | error => rfl
  | listStart rule | listMore rule | body rule => cases rule

section Final

variable {text : Text} {last : Token}

theorem Stream.ofText_final (final : (Token.scan text).dropLast.getLast? = some last) :
    (ofText text).rest.getLast? = some last := by
  rwa [(ofText_tokens text).1, List.dropLast_concat] at final

theorem Stream.ofText_stop_le (final : (ofText text).rest.getLast? = some last) {t : Token}
    (member : t ∈ (ofText text).rest) : t.stop ≤ last.stop := by
  have apart := (ofText_inOrder text).ordered.apart
  have some : (ofText text).rest ≠ [] := List.ne_nil_of_mem member
  exact (apart.bounds (List.head?_eq_some_head some) final t member).2

theorem Stream.ofText_capped (final : (ofText text).rest.getLast? = some last)
    (silent : last.kind.isPunctuation = true) : (ofText text).Capped last.stop := by
  refine ⟨ofText_inOrder text, ?_, ?_, ?_⟩
  · intro t member
    have wide := ((ofText_inOrder text).bounds member).2.1
    have stop := ofText_stop_le final member
    omega
  · exact fun t member _ => ofText_stop_le final member
  · intro t isLast
    rw [final, Option.some.injEq] at isLast
    exact isLast ▸ silent

/-- Before a comma that ends a text, everything else ends. -/
theorem Stream.ofText_capped_comma (final : (ofText text).rest.getLast? = some last)
    (comma : last.kind = .comma) : (ofText text).Capped last.start := by
  have order := ofText_inOrder text
  have among := List.mem_of_getLast? final
  have before : ∀ t ∈ (ofText text).rest, t ≠ last → t.stop ≤ last.start := by
    intro t member other
    by_contra behind
    have wide := (order.bounds member).2.1
    have stop := ofText_stop_le final member
    exact other (order.ordered.apart.eq_of_overlap member among (by omega) (by omega))
  refine ⟨order, ?_, ?_, (ofText_capped final (by rw [comma]; rfl)).final⟩
  · intro t member
    by_cases same : t = last
    · rw [same]
    · have wide := (order.bounds member).2.1
      have stop := before t member same
      omega
  · intro t member other
    apply before t member
    rintro rfl
    exact other comma

namespace SyntaxTree

/-- A list of labels or matchers ends with the last token or before it. -/
theorem list_stop_le (final : (Stream.ofText text).rest.getLast? = some last)
    (silent : last.kind.isPunctuation = true) {n : Node} (member : n ∈ (parse text).nodes)
    (lists : n.kind.listsLabels = true) : n.stop ≤ last.stop := by
  have order := Stream.ofText_inOrder text
  have capped := Stream.ofText_capped final silent
  have stops : ∀ t ∈ (Stream.ofText text).rest, t.stop ≤ last.stop := fun t among =>
    Stream.ofText_stop_le final among
  obtain ⟨s, after, list, parts, leads, some, next, later, -, same, -, parts_capped⟩ :=
    (parse_arises text n member).labels order lists
  rw [same]
  apply Node.branch_stop_le
  · exact capped.starts _ (leads.current_mem some)
  · exact (leads.trans (next.trans later)).last_le_of_stops (Nat.zero_le _) stops
  · intro c child
    have inner := parts_capped _ (capped.later (leads.trans next))
    rcases Parser.listChildren_capped inner c child with upper | ⟨t, among, rfl⟩
    · exact upper
    · have stop := stops t ((leads.trans next).suffix.subset among)
      have wide := (order.bounds ((leads.trans next).suffix.subset among)).2.1
      rw [Node.leaf_stop]
      omega

/-- A label is a token, and so ends with the last one or before it. -/
theorem label_stop_le (final : (Stream.ofText text).rest.getLast? = some last) {n : Node}
    (member : n ∈ (parse text).nodes) (label : n.kind = .labelName) : n.stop ≤ last.stop := by
  obtain ⟨s, leads, more, -, same⟩ := (parse_arises text n member).token (by rw [label]; rfl)
    (by simp [label]) (by simp [label])
  have wide := (leads.inOrder (Stream.ofText_inOrder text)).current_lt more
  have stop := Stream.ofText_stop_le final (leads.current_mem more)
  rw [same, Stream.leaf, Node.leaf_stop]
  omega

/-- What reaches the end of a comma that ends the text, in a list, is an error over the comma. -/
theorem list_child_eq (final : (Stream.ofText text).rest.getLast? = some last)
    (comma : last.kind = .comma) {n : Node} (member : n ∈ (parse text).nodes)
    (lists : n.kind.listsLabels = true) {c : Node} (child : c ∈ n.children)
    (reaches : last.stop ≤ c.stop) : c = .leaf .error last.start last.stop := by
  have order := Stream.ofText_inOrder text
  have among := List.mem_of_getLast? final
  have capped := Stream.ofText_capped_comma final comma
  have wide := (order.bounds among).2.1
  obtain ⟨s, after, list, parts, leads, -, next, -, -, same, -, parts_capped⟩ :=
    (parse_arises text n member).labels order lists
  rw [same] at child
  have inner := parts_capped _ (capped.later (leads.trans next))
  rcases Parser.listChildren_capped inner c child with upper | ⟨t, left, rfl⟩
  · omega
  · have inside := (leads.trans next).suffix.subset left
    have broad := (order.bounds inside).2.1
    have stop := Stream.ofText_stop_le final inside
    rw [Node.leaf_stop] at reaches
    rw [order.ordered.apart.eq_of_overlap inside among (by omega) (by omega)]

/-- A list whose bracket ends the text is nothing but that bracket. -/
theorem list_of_opening (final : (Stream.ofText text).rest.getLast? = some last) {n : Node}
    (member : n ∈ (parse text).nodes) (lists : n.kind.listsLabels = true)
    (opens : last.start = n.start) : n.children = [] ∧ last.stop ≤ n.stop := by
  have order := Stream.ofText_inOrder text
  have among := List.mem_of_getLast? final
  have wide := (order.bounds among).2.1
  obtain ⟨s, after, list, parts, leads, some, next, ⟨forest, read⟩, start, same, bare, -⟩ :=
    (parse_arises text n member).labels order lists
  have here := leads.current_mem some
  have broad := (order.bounds here).2.1
  have bracket := order.ordered.apart.eq_of_overlap here among (by omega) (by omega)
  -- The bracket is the last token, so no part of the list is left to read.
  have done : s.advance.rest = [] := by
    refine List.eq_nil_iff_forall_not_mem.mpr fun t left => ?_
    have inside := (leads.trans next).suffix.subset left
    have stop := Stream.ofText_stop_le final inside
    have first := ((leads.inOrder order).advance.bounds left).1
    have behind := (order.bounds inside).2.1
    have gap := (leads.inOrder order).gap some
    rw [bracket] at gap
    omega
  have forward := read.last_le (leads.inOrder order).advance
  have upper := Node.le_branch_stop n.kind s.current.start after.last
    (Parser.listChildren list parts)
  rw [Stream.last_advance some, bracket] at forward
  rw [← same] at upper
  refine ⟨?_, by omega⟩
  rw [same, bare done]
  rfl

/-- No list is below an error. -/
theorem not_reaches_list {error list : Cursor} (place : error ∈ (parse text).cursors)
    (isError : error.kind = .error) (lists : list.kind.listsLabels = true) :
    ¬ error.Reaches list := by
  intro way
  have member := node_mem_nodes place
  rcases way.cases_child with rfl | ⟨e, child, lower⟩
  · rw [isError] at lists
    cases lists
  · have inside := Cursor.node_mem_children child
    have below := Node.mem_preorder_of_child member inside
    have name : e.kind = .identifier := by
      rcases (parse_lawful text _ member).rule with ⟨none, -⟩ | rule
      · rw [none] at inside
        cases inside
      · rw [show error.node.kind = .error from isError] at rule
        have kinds := List.mem_map_of_mem (f := Node.kind) inside
        rw [rule.of_error] at kinds
        exact List.mem_singleton.mp kinds
    rcases lower.cases_child with rfl | ⟨f, deeper, -⟩
    · rw [name] at lists
      cases lists
    · have leaf : e.node.kind.isLeaf = true := by rw [show e.node.kind = .identifier from name]; rfl
      rcases (parse_lawful text _ below).rule with ⟨none, -⟩ | rule
      · have bottom := Cursor.node_mem_children deeper
        rw [none] at bottom
        cases bottom
      · have wrong := rule.eq_error_of_isLeaf leaf
        rw [show e.node.kind = .identifier from name] at wrong
        cases wrong

/-- A list that covers a position leads to what the position resolves to. -/
theorem list_reaches_resolve {list : Cursor} {pos : Nat} (place : list ∈ (parse text).cursors)
    (lists : list.kind.listsLabels = true) (covered : Side.before.covers pos list.node = true) :
    list.Reaches ((parse text).resolve pos .before) := by
  have below : list ≠ (parse text).cursor := by
    rintro rfl
    rw [show (parse text).cursor.kind = .query from (parse_wellFormed text).root_kind] at lists
    cases lists
  have tidy : (parse text).cursor.node.Everywhere Node.Tidy := parse_tidy text
  have either := Cursor.descend_innermost tidy (parse_nests text) (mem_cursors_iff.mp place) below
    covered
  -- Only what is below an error is ever passed by, and no list is.
  refine either.resolve_right ?_
  rintro ⟨around, error, ⟨parent, way, -, child, overlay⟩, toList, -⟩
  have above : error ∈ (parse text).cursors := mem_cursors_iff.mpr (way.down child)
  exact not_reaches_list above overlay.isError lists toList

end SyntaxTree

namespace Completion

/-- No label name is suggested. -/
def Nameless (ctxs : List Context) : Prop := ∀ ctx ∈ ctxs, ctx.kind ≠ .labelName

theorem nameless_nil : Nameless [] := List.forall_mem_nil _

theorem nameless_ofKinds {kinds : List ContextKind} (absent : .labelName ∉ kinds) :
    Nameless (ofKinds kinds) := by
  intro ctx member named
  obtain ⟨kind, among, rfl⟩ := List.mem_map.mp member
  rw [show kind = .labelName from named] at among
  exact absent among

theorem nameless_continuation (expr : Node) : Nameless (continuation expr) := by
  apply nameless_ofKinds
  split <;> decide

theorem nameless_insideBrackets (source : Text) (pos : Nat) (n : Node) :
    Nameless (insideBrackets source pos n) := by
  unfold insideBrackets
  split
  · exact nameless_continuation _
  · exact nameless_ofKinds (by decide)

theorem nameless_strayIdentifier (source : Text) (c : Cursor) :
    Nameless (strayIdentifier source c) := by
  unfold strayIdentifier
  split
  · exact nameless_nil
  · split
    · exact nameless_ofKinds (by decide)
    · split
      · exact nameless_nil
      · refine List.forall_mem_append.mpr ⟨nameless_ofKinds ?_, nameless_continuation _⟩
        split <;> decide

theorem nameless_metricIdentifier (source : Text) (c : Cursor) :
    Nameless (metricIdentifier source c) := by
  unfold metricIdentifier
  refine List.forall_mem_cons.mpr ⟨nofun, nameless_ofKinds ?_⟩
  split
  · split <;> decide
  · decide

theorem nameless_labelValue (source : Text) (c : Cursor) : Nameless (labelValue source c) := by
  unfold labelValue
  split
  · exact nameless_nil
  · exact List.forall_mem_singleton.mpr nofun

/-- Label names are suggested in lists of labels or matchers and on labels only. -/
theorem nameless_contexts {source : Text} {c : Cursor} (pos : Nat)
    (bare : c.kind.listsLabels = false) (other : c.kind ≠ .labelName) :
    Nameless (contexts source c pos) := by
  unfold Cursor.kind at bare other
  unfold contexts
  dsimp only
  split
  any_goals exact nameless_insideBrackets source pos c.node
  any_goals apply nameless_ofKinds; decide
  · split
    · exact nameless_strayIdentifier source c
    · exact nameless_metricIdentifier source c
    · exact nameless_ofKinds (by decide)
    · exact nameless_nil
  · rename_i kind
    rw [kind] at bare
    cases bare
  · rename_i kind
    exact absurd kind other
  · rename_i kind
    rw [kind] at bare
    cases bare
  · split
    · exact nameless_labelValue source c
    · exact nameless_nil
  · split
    · exact nameless_ofKinds (by decide)
    · split
      · exact nameless_ofKinds (by decide)
      · split
        · exact nameless_ofKinds (by decide)
        · exact nameless_nil
  · split
    · exact nameless_continuation c.node
    · exact nameless_ofKinds (by decide)
  · split
    · exact nameless_continuation c.node
    · exact nameless_ofKinds (by decide)
  · split
    · exact nameless_ofKinds (by decide)
    · exact nameless_nil
  · exact nameless_nil

/-- In a list of labels or matchers, a label name is suggested and nothing else. -/
theorem contexts_of_list {source : Text} {c : Cursor} (pos : Nat)
    (lists : c.kind.listsLabels = true) :
    ∃ ctx, contexts source c pos = [ctx] ∧ ctx.kind = .labelName := by
  unfold Cursor.kind NodeKind.listsLabels at lists
  split at lists
  · rename_i kind
    simp only [contexts, kind, labelName]
    exact ⟨_, rfl, rfl⟩
  · rename_i kind
    simp only [contexts, kind]
    exact ⟨_, rfl, rfl⟩
  · cases lists

/-- On an error in a list of labels or matchers, nothing is suggested. -/
theorem contexts_of_list_error {text : Text} {c parent : Cursor} (pos : Nat)
    (place : parent ∈ (SyntaxTree.parse text).cursors) (child : c ∈ parent.children)
    (lists : parent.kind.listsLabels = true) (isError : c.kind = .error) :
    contexts text c pos = [] := by
  have member := SyntaxTree.node_mem_nodes place
  have inner : parent.node.kind.isLeaf = false ∧ parent.node.kind.holdsExpr = false ∧
      parent.node.kind ≠ .labelMatcher ∧ holdsDuration parent.node.kind = false := by
    unfold Cursor.kind NodeKind.listsLabels at lists
    split at lists
    · rename_i kind
      rw [kind]
      decide
    · rename_i kind
      rw [kind]
      decide
    · cases lists
  obtain ⟨isBranch, bare, notMatcher, notLength⟩ := inner
  have none : (precedingExpr? c).isSome = false := by
    by_contra behind
    obtain ⟨i, before, found, kinds, -⟩ :=
      SyntaxTree.exists_before child (Bool.not_eq_false _ ▸ behind)
    have rule := (SyntaxTree.parse_lawful text _ member).rule_of_inner isBranch
    have holds := rule.bare_of_mem bare before.kind
      (List.mem_map_of_mem (List.mem_of_getElem? found))
    rcases kinds with same | same <;> rw [same] at holds <;> cases holds
  have up : c.parentKind? = some parent.node.kind := by
    rw [Cursor.parentKind?, Cursor.parent?_of_mem_children child]
    rfl
  simp [contexts, show c.node.kind = .error from isError, up, notMatcher, notLength, none]

end Completion

end Final

namespace Completion

/-- A text that ends with the bracket that opens a list of labels or matchers, or with a comma in
such a list. -/
structure EndsInList (text : Text) (list : Cursor) (last : Token) : Prop where
  place : list ∈ (SyntaxTree.parse text).cursors
  lists : list.kind = .labelMatchers ∨ list.kind = .groupingLabels
  final : (Token.scan text).dropLast.getLast? = some last
  reaches : last.stop = Text.size text
  role : (last.kind = .leftBrace ∨ last.kind = .leftParen) ∧ last.start = list.node.start ∨
    last.kind = .comma ∧ list.node.start < last.start ∧ last.stop ≤ list.node.stop

/-- A comma that separates nothing: it is an error in the list. -/
def Stray (list : Cursor) (last : Token) : Prop :=
  Node.leaf .error last.start last.stop ∈ list.node.children

namespace EndsInList

variable {text : Text} {list : Cursor} {last : Token}

theorem listsLabels (ends : EndsInList text list last) : list.kind.listsLabels = true := by
  rcases ends.lists with kind | kind <;> rw [kind] <;> rfl

theorem isPunctuation (ends : EndsInList text list last) : last.kind.isPunctuation = true := by
  rcases ends.role with ⟨kind | kind, -⟩ | ⟨kind, -⟩ <;> rw [kind] <;> rfl

theorem endsAt (ends : EndsInList text list last) :
    Token.EndsAt (Token.scan text) (Text.size text) := by
  refine ⟨last, ends.final, ends.reaches, fun raw string => ?_⟩
  have silent := ends.isPunctuation
  rw [string] at silent
  cases silent

/-- Behind blanks no label name is suggested. -/
theorem nameless (ends : EndsInList text list last) {w : Text} (some : w ≠ [])
    (blank : ∀ c ∈ w, Text.isBlank c = true) :
    Nameless (analyze (.parse (text ++ w)) (Text.size (text ++ w))) := by
  have final := Stream.ofText_final ends.final
  rw [← Stream.ofText_append_blanks ends.endsAt some blank] at final
  have silent := ends.isPunctuation
  have reaches := ends.reaches
  have wide := Text.size_pos some
  have size := Text.size_append text w
  have member := SyntaxTree.node_mem_nodes
    (SyntaxTree.resolve_mem (text ++ w) (Text.size (text ++ w)) .before)
  have beyond : ((SyntaxTree.parse (text ++ w)).resolve (Text.size (text ++ w)) .before).kind ≠
      .query → Text.size (text ++ w) ≤
        ((SyntaxTree.parse (text ++ w)).resolve (Text.size (text ++ w)) .before).node.stop :=
    fun below => (SyntaxTree.resolve_start_lt
      (SyntaxTree.parse_wellFormed (text ++ w)).root_kind below).2
  unfold analyze
  generalize (SyntaxTree.parse (text ++ w)).resolve (Text.size (text ++ w)) .before = c at *
  apply nameless_contexts
  · rw [← Bool.not_eq_true]
    intro lists
    have stop := SyntaxTree.list_stop_le final silent member lists
    have covers := beyond (by
      intro root
      rw [root] at lists
      cases lists)
    omega
  · intro label
    have stop := SyntaxTree.label_stop_le final member label
    have covers := beyond (by simp [label])
    omega

/-- The list covers the end of the text. -/
theorem covers (ends : EndsInList text list last) :
    Side.before.covers (Text.size text) list.node = true := by
  have final := Stream.ofText_final ends.final
  have wide := ((Stream.ofText_inOrder text).bounds (List.mem_of_getLast? final)).2.1
  have member := SyntaxTree.node_mem_nodes ends.place
  have reaches := ends.reaches
  rw [Side.covers_before_iff]
  rcases ends.role with ⟨-, start⟩ | ⟨-, start, stop⟩
  · have stop := (SyntaxTree.list_of_opening final member ends.listsLabels start).2
    omega
  · omega

/-- Nothing in the list covers the end of the text but an error over a comma there. -/
theorem covering_child (ends : EndsInList text list last) {e : Node}
    (child : e ∈ list.node.children) (covered : Side.before.covers (Text.size text) e = true) :
    e = .leaf .error last.start last.stop := by
  have final := Stream.ofText_final ends.final
  have member := SyntaxTree.node_mem_nodes ends.place
  have reaches := ends.reaches
  rw [Side.covers_before_iff] at covered
  rcases ends.role with ⟨-, start⟩ | ⟨comma, -, -⟩
  · rw [(SyntaxTree.list_of_opening final member ends.listsLabels start).1] at child
    cases child
  · exact SyntaxTree.list_child_eq final comma member ends.listsLabels child (by omega)

/-- What the end of the text resolves to: the list, or an error over a comma in it. -/
theorem resolve_cases (ends : EndsInList text list last) :
    ¬ Stray list last ∧ (SyntaxTree.parse text).resolve (Text.size text) .before = list ∨
      Stray list last ∧ (SyntaxTree.parse text).resolve (Text.size text) .before ∈ list.children ∧
        ((SyntaxTree.parse text).resolve (Text.size text) .before).kind = .error := by
  have way := SyntaxTree.list_reaches_resolve ends.place ends.listsLabels ends.covers
  have stops := (SyntaxTree.parse text).resolve_stops (Text.size text) .before
  have either : (SyntaxTree.parse text).resolve (Text.size text) .before =
      (SyntaxTree.parse text).cursor ∨ Side.before.covers (Text.size text)
        ((SyntaxTree.parse text).resolve (Text.size text) .before).node = true :=
    SyntaxTree.resolve_covers
  generalize (SyntaxTree.parse text).resolve (Text.size text) .before = found at *
  rcases way.cases_child with same | ⟨e, child, lower⟩
  · refine .inl ⟨fun stray => ?_, same⟩
    have final := Stream.ofText_final ends.final
    have wide := ((Stream.ofText_inOrder text).bounds (List.mem_of_getLast? final)).2.1
    have reaches := ends.reaches
    rw [same] at stops
    have outside := Side.covers_before_eq_false.mp (stops _ stray)
    rw [Node.leaf_start, Node.leaf_stop] at outside
    omega
  · have inside := Cursor.node_mem_children child
    have member := SyntaxTree.node_mem_nodes ends.place
    have below : found ≠ (SyntaxTree.parse text).cursor := by
      intro root
      obtain ⟨index, -, frames⟩ := Cursor.mem_children.mp child
      have path := lower.path_suffix.length_le
      rw [root] at path
      simp [Cursor.path, frames, SyntaxTree.cursor, Cursor.ofRoot] at path
    have nested : e.node.Everywhere Node.Nests :=
      (SyntaxTree.parse_nests text).below (Node.mem_preorder_of_child member inside)
    -- The child on the way down covers the position, too, so it is the error, which is a leaf.
    have covered := lower.covers nested (either.resolve_left below)
    have error := ends.covering_child inside covered
    have only : found = e := by
      refine lower.cases_child.resolve_right ?_
      rintro ⟨f, deeper, -⟩
      have bottom := Cursor.node_mem_children deeper
      rw [error] at bottom
      cases bottom
    subst only
    refine .inr ⟨?_, child, congrArg Node.kind error⟩
    rwa [error] at inside

end EndsInList

variable {text : Text} {list : Cursor} {last : Token} {w : Text}

/-- Right behind a bracket that opens a list of labels or matchers, or a comma in one, a label name
is suggested, unless the comma separates nothing; behind any blanks after it none is. So the blanks
change what is suggested wherever a label name is. -/
theorem analyze_open_list (ends : EndsInList text list last) (some : w ≠ [])
    (blank : ∀ c ∈ w, Text.isBlank c = true) :
    (∀ ctx ∈ analyze (.parse (text ++ w)) (Text.size (text ++ w)), ctx.kind ≠ .labelName) ∧
      (Stray list last → analyze (.parse text) (Text.size text) = []) ∧
      (¬ Stray list last →
        ∃ ctx, analyze (.parse text) (Text.size text) = [ctx] ∧ ctx.kind = .labelName) := by
  refine ⟨ends.nameless some blank, ?_⟩
  rcases ends.resolve_cases with ⟨none, found⟩ | ⟨stray, child, isError⟩
  · refine ⟨fun stray => absurd stray none, fun _ => ?_⟩
    rw [analyze, found]
    exact contexts_of_list (Text.size text) ends.listsLabels
  · refine ⟨fun _ => ?_, fun none => absurd stray none⟩
    exact contexts_of_list_error (Text.size text) ends.place child ends.listsLabels isError

/-- The text of a selector with its brace just typed. -/
def openBrace : Text := "foo\x7b".toList

theorem openBrace_endsInList :
    EndsInList openBrace ((SyntaxTree.parse openBrace).resolve 4 .before) ⟨.leftBrace, ⟨3, 1⟩⟩ := by
  refine ⟨SyntaxTree.resolve_mem openBrace 4 .before, ?_, ?_, ?_, ?_⟩
  · exact .inl (by decide +kernel)
  · decide +kernel
  · decide +kernel
  · exact .inl (by decide +kernel)

/-- A blank behind the brace takes the label names away. -/
theorem analyze_open_list_brace :
    EndsInList openBrace ((SyntaxTree.parse openBrace).resolve 4 .before) ⟨.leftBrace, ⟨3, 1⟩⟩ ∧
      ∀ ctx ∈ analyze (.parse (openBrace ++ [' '])) 5, ctx.kind ≠ .labelName :=
  ⟨openBrace_endsInList,
    (analyze_open_list openBrace_endsInList (List.cons_ne_nil ' ' [])
      (List.all_eq_true.mp (by decide))).1⟩

/-- So blanks do change what is suggested in a list that is still open. -/
theorem analyze_blank_differs :
    ¬ ∀ (text : Text) (list : Cursor) (last : Token) (w : Text), EndsInList text list last →
      w ≠ [] → (∀ c ∈ w, Text.isBlank c = true) →
      analyze (.parse (text ++ w)) (Text.size (text ++ w)) =
        analyze (.parse text) (Text.size text) := by
  intro always
  have same := always openBrace _ _ [' '] openBrace_endsInList (List.cons_ne_nil _ _)
    (List.all_eq_true.mp (by decide))
  have differs : analyze (.parse (openBrace ++ [' '])) (Text.size (openBrace ++ [' '])) ≠
      analyze (.parse openBrace) (Text.size openBrace) := by decide +kernel
  exact differs same

end Completion

end MetricQuery
