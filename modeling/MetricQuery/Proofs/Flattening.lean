import MetricQuery.Proofs.AfterExpression
import MetricQuery.Proofs.ListItems
import MetricQuery.Proofs.Selector
import Mathlib.Data.List.TakeWhile

/-!
Lists are flattened without loss. The chain of a list comes out with all its items, in the order of
the source, whatever stands beside them or inside them. The labels of a grouping are the identifiers
up to the first closing parenthesis: labels are read token by token, and one that is no name is
passed over.
-/

set_option autoImplicit false

namespace MetricQuery

namespace Token

/-- Tokens up to the first closing parenthesis. -/
def beforeClosing (ts : List Token) : List Token := ts.takeWhile (·.kind != .rightParen)

/-- The first closing parenthesis and everything behind it. -/
def fromClosing (ts : List Token) : List Token := ts.dropWhile (·.kind != .rightParen)

/-- The identifiers among tokens, in order. -/
def names (ts : List Token) : List String := ts.filterMap ident?

theorem beforeClosing_append (ts : List Token) : beforeClosing ts ++ fromClosing ts = ts :=
  List.takeWhile_append_dropWhile

theorem kind_of_mem_beforeClosing {t : Token} {ts : List Token} (member : t ∈ beforeClosing ts) :
    t.kind ≠ .rightParen := by
  simpa using List.mem_takeWhile_imp member

theorem kind_of_fromClosing {t : Token} {ts more : List Token}
    (found : fromClosing ts = t :: more) :
    t.kind = .rightParen := by
  have stopped := List.head?_dropWhile_not (·.kind != .rightParen) ts
  rw [← fromClosing, found] at stopped
  simpa using stopped

end Token

namespace Stream

/-- Every token left to read stands in the text. -/
def Written (text : Text) (s : Stream) : Prop :=
  ∀ t ∈ s.rest, t.Reads text ∧ t.kind ≠ .endOfInput

variable {text : Text} {s after : Stream}

theorem Written.later (written : s.Written text) (fewer : after.rest <:+ s.rest) :
    after.Written text := fun t member => written t (fewer.subset member)

theorem Written.advance (written : s.Written text) : s.advance.Written text := by
  apply written.later
  rw [rest_advance]
  exact List.tail_suffix s.rest

theorem ofText_written (text : Text) : (ofText text).Written text := fun t member =>
  ⟨Token.scan_reads text t (mem_scan_of_ofText text member),
    ((ofText_tokens text).2.1 t member).1⟩

end Stream

namespace Parser

/-- The list between brackets is the one made of the items. -/
theorem child?_listChildren {body list item : NodeKind} (rule : ListRule body list item)
    {parts : List Part} (fits : ∀ part ∈ parts, part.Fits body list) (start stop : Nat) :
    (Node.branch body start stop (listChildren list parts)).child? list =
      chain list (parts.filterMap Part.item?) := by
  cases found : chain list (parts.filterMap Part.item?) with
  | none =>
    refine List.find?_eq_none.mpr fun c child isList => ?_
    have kind : c.kind = list := by simpa using isList
    rcases mem_listChildren.mp child with same | stray
    · rw [found] at same
      cases same
    · exact (list_kind rule).1 (kind.symm.trans (fits _ stray))
  | some n =>
    have once := (rule.of_body (listChildren_rule rule fits)).2
    refine Node.child?_of_count once (mem_listChildren.mpr (.inl found)) ?_
    exact chain_kind list _ n (Option.mem_toList.mpr found)

/-- The labels of a grouping were read up to the closing parenthesis: they are the identifiers
before it, and reading goes on behind it. -/
structure NamesRead (text : Text) (s : Stream) (r : List Part × Stream) : Prop where
  names : (r.1.filterMap Part.item?).filterMap
    (fun label => (label.child? .labelName).map (Node.text text)) =
      Token.names (Token.beforeClosing s.rest)
  rest : r.2.rest = (Token.fromClosing s.rest).tail
  last : ∀ t, (Token.fromClosing s.rest).head? = some t → r.2.last = t.stop

namespace NamesRead

variable {text : Text} {s : Stream} {t : Token} {ts : List Token} {parts : List Part}
  {after : Stream}

theorem closed (next : s.rest = t :: ts) (closes : t.kind = .rightParen) :
    NamesRead text s ([], s.advance) := by
  have before : Token.beforeClosing s.rest = [] := by simp [Token.beforeClosing, next, closes]
  have behind : Token.fromClosing s.rest = t :: ts := by simp [Token.fromClosing, next, closes]
  refine ⟨by rw [before]; rfl, ?_, ?_⟩
  · rw [behind]
    exact Stream.advance_rest next
  · intro u found
    rw [behind] at found
    cases found
    rw [Stream.advance_cons next]

theorem unclosed (done : s.rest = []) : NamesRead text s ([], s) := by
  refine ⟨by rw [done]; rfl, by rw [done]; rfl, ?_⟩
  intro u found
  rw [done] at found
  cases found

/-- A token that is no name is passed over, whatever becomes of it. -/
theorem pass (next : s.rest = t :: ts) (opens : t.kind ≠ .rightParen) (unnamed : t.ident? = none)
    (later : NamesRead text s.advance (parts, after)) : NamesRead text s (parts, after) := by
  have before :
      Token.names (Token.beforeClosing s.rest) = Token.names (Token.beforeClosing ts) := by
    simp [Token.names, Token.beforeClosing, next, opens, unnamed]
  have behind : Token.fromClosing s.rest = Token.fromClosing ts := by
    simp [Token.fromClosing, next, opens]
  obtain ⟨names, rest, last⟩ := later
  rw [Stream.advance_rest next] at names rest last
  exact ⟨before ▸ names, behind ▸ rest, behind ▸ last⟩

theorem skipComma (later : NamesRead text (s.skip .comma) (parts, after)) :
    NamesRead text s (parts, after) := by
  rw [Stream.skip] at later
  split at later
  · rename_i comma
    obtain ⟨t, ts, next⟩ := Stream.rest_of_kind (s := s) (by simp [comma])
    rw [Stream.kind_of_rest next] at comma
    exact pass next (by simp [comma]) (by simp [Token.ident?, comma]) later
  · exact later

theorem stray (error : Node) (read : NamesRead text s (parts, after)) :
    NamesRead text s (.stray error :: parts, after) :=
  ⟨read.names, read.rest, read.last⟩

theorem label {name : String} (next : s.rest = t :: ts) (isName : t.kind = .ident name)
    (reads : t.Reads text) (later : NamesRead text s.advance (parts, after)) :
    NamesRead text s (.item (.wrap .groupingLabel (s.leaf .labelName).1) :: parts, after) := by
  have written : (s.leaf .labelName).1.text text = name := by
    have spelled := reads.leaf_text (by simp [isName]) .labelName
    rwa [isName, ← Stream.current_cons next] at spelled
  have before : Token.names (Token.beforeClosing s.rest) =
      name :: Token.names (Token.beforeClosing ts) := by
    simp [Token.names, Token.beforeClosing, next, isName, Token.ident?]
  have behind : Token.fromClosing s.rest = Token.fromClosing ts := by
    simp [Token.fromClosing, next, isName]
  obtain ⟨names, rest, last⟩ := later
  rw [Stream.advance_rest next] at names rest last
  refine ⟨?_, behind ▸ rest, behind ▸ last⟩
  have child : (Node.wrap .groupingLabel (s.leaf .labelName).1).child? .labelName =
      some (s.leaf .labelName).1 := by simp [Node.child?, Node.wrap]
  rw [before, ← names]
  simp [Part.item?, child, written]

end NamesRead

theorem groupingParts_names (text : Text) (steps : Nat) {s : Stream}
    (enough : s.rest.length ≤ steps) (written : s.Written text) :
    NamesRead text s (groupingParts steps s) := by
  induction steps generalizing s with
  | zero => exact .unclosed (List.eq_nil_of_length_eq_zero (by omega))
  | succ steps ih =>
    cases next : s.rest with
    | nil =>
      rw [groupingParts, Stream.kind_of_nil next]
      exact .unclosed next
    | cons t ts =>
      obtain ⟨reads, inner⟩ := written t (by simp [next])
      have short : ts.length ≤ steps := by
        rw [next, List.length_cons] at enough
        omega
      rw [groupingParts, Stream.kind_of_rest next]
      split
      · rename_i closes
        exact .closed next closes
      · rename_i ends
        exact absurd ends inner
      · rename_i name isName
        have fewer := Stream.skip_suffix s.advance .comma
        refine .label next isName reads (.skipComma (ih ?_ (written.advance.later fewer)))
        rw [Stream.advance_rest next] at fewer
        exact Nat.le_trans fewer.length_le short
      · rename_i opens _ unnamed
        have none : t.ident? = none := by
          unfold Token.ident?
          split
          · rename_i name isName
            exact absurd isName (unnamed name)
          · rfl
        have later := ih (s := s.advance) (by rwa [Stream.advance_rest next]) written.advance
        exact .stray _ (.pass next opens none later)

/-- No label or error reaches beyond what was read. -/
theorem groupingParts_stop_le (steps : Nat) {s : Stream} (order : s.InOrder) :
    ∀ part ∈ (groupingParts steps s).1, part.node.stop ≤ (groupingParts steps s).2.last := by
  induction steps generalizing s with
  | zero => exact List.forall_mem_nil _
  | succ steps ih =>
    have token : ∀ kind, s.kind ≠ .endOfInput → (s.leaf kind).1.stop ≤ s.advance.last := by
      intro kind more
      obtain ⟨t, ts, next⟩ := Stream.rest_of_kind more
      have wide := order.current_lt (by simp [next])
      rw [Stream.current_cons next] at wide
      simp only [Stream.leaf, Node.leaf_stop, Stream.current_cons next, Stream.advance_cons next]
      omega
    rw [groupingParts]
    split
    · exact List.forall_mem_nil _
    · exact List.forall_mem_nil _
    · rename_i name found
      have label : Reads s _ s.advance := .ident 0 .labelName rfl found
      have comma : Reads s.advance [] (s.advance.skip .comma) := .skip s.advance .comma rfl
      have between := comma.last_le (label.inOrder order)
      have later := comma.inOrder (label.inOrder order)
      have forward := (groupingParts_reads 0 steps (s.advance.skip .comma)).last_le later
      have own := token .labelName (by simp [found])
      refine List.forall_mem_cons.mpr ⟨?_, ih later⟩
      rw [Part.node, Node.wrap_stop .groupingLabel (Nat.le_max_right _ _)]
      exact own.trans (between.trans forward)
    · rename_i more _
      have error : Reads s _ s.advance := .errorLeaf 0 more
      have later := error.inOrder order
      have forward := (groupingParts_reads 0 steps s.advance).last_le later
      exact List.forall_mem_cons.mpr ⟨(token .error more).trans forward, ih later⟩

/-- A grouping ends where reading it ended. -/
theorem groupingLabels_stop {s : Stream} (order : s.InOrder) (opens : s.kind = .leftParen) :
    (groupingLabels s).1.stop = (groupingLabels s).2.last := by
  have read := groupingLabels_reads 0 opens
  have bracket : Reads s [] s.advance := .punctuation (by rw [opens]; rfl)
  have parts := groupingParts_stop_le s.advance.rest.length (bracket.inOrder order)
  have laid := PartsLaid.of_laid
    ((groupingParts_reads 0 s.advance.rest.length s.advance).laid (bracket.inOrder order))
  have fewer : (groupingLabels s).2.rest.length < s.rest.length :=
    (groupingParts_reads 0 s.advance.rest.length s.advance).rest_length_lt (by rw [opens]; rfl)
  have passed := (read.forward order).2 fewer
  refine Nat.le_antisymm (Node.branch_stop_le (Nat.le_of_lt passed) (Nat.le_refl _) ?_) ?_
  · intro c child
    rcases mem_listChildren.mp child with isList | isStray
    · obtain ⟨last, isLast, stop⟩ :=
        (chain_encloses isList fun i member => laid.proper _ (mem_items.mp member)).stop
      rw [stop]
      exact parts _ (mem_items.mp isLast)
    · exact parts _ isStray
  · have wide := Node.le_branch_stop .groupingLabels s.current.start (groupingLabels s).2.last
      (listChildren .groupingLabelList (groupingParts s.advance.rest.length s.advance).1)
    exact Nat.le_trans (Nat.le_max_left _ _) wide

/-- A grouping that opens with a parenthesis has the identifiers up to the next closing one for
names; reading goes on behind that, and that is where the grouping ends. -/
theorem groupingLabels_names {text : Text} {s : Stream} {t : Token} {ts : List Token}
    (next : s.rest = t :: ts) (written : s.Written text) :
    (groupingLabels s).1.groupingNames text = Token.names (Token.beforeClosing ts) ∧
      (groupingLabels s).2.rest = (Token.fromClosing ts).tail ∧
      ∀ u, (Token.fromClosing ts).head? = some u → (groupingLabels s).2.last = u.stop := by
  have later : s.advance.rest = ts := Stream.advance_rest next
  have read := groupingParts_names text s.advance.rest.length (Nat.le_refl _) written.advance
  rw [← later]
  refine ⟨?_, read.rest, read.last⟩
  have fits := groupingParts_fits s.advance.rest.length s.advance
  have items : ∀ n ∈ (groupingParts s.advance.rest.length s.advance).1.filterMap Part.item?,
      n.kind = .groupingLabel := by
    intro n member
    have rule : ListRule .groupingLabels .groupingLabelList n.kind := fits _ (mem_items.mp member)
    generalize n.kind = kind at rule
    cases rule
    rfl
  rw [← read.names, Node.groupingNames, Node.at?_singleton, groupingLabels,
    child?_listChildren .labels fits]
  cases found : chain .groupingLabelList
      ((groupingParts s.advance.rest.length s.advance).1.filterMap Part.item?) with
  | none => rw [chain_eq_none found]; rfl
  | some list =>
    dsimp only
    rw [chain_items (by decide) items found]

end Parser

namespace SyntaxTree

/-- What stands between brackets, with the list in it and the items of that list. -/
def flattenedLists : List (NodeKind × NodeKind × NodeKind) :=
  [(.functionCallBody, .functionCallArgs, .expr),
    (.groupingLabels, .groupingLabelList, .groupingLabel),
    (.labelMatchers, .labelMatchList, .labelMatcher)]

theorem rule_of_flattenedLists {body list item : NodeKind}
    (listed : (body, list, item) ∈ flattenedLists) :
    ListRule body list item ∧ item ≠ .error := by
  simp only [flattenedLists, List.mem_cons, Prod.mk.injEq, List.not_mem_nil, or_false] at listed
  rcases listed with ⟨rfl, rfl, rfl⟩ | ⟨rfl, rfl, rfl⟩ | ⟨rfl, rfl, rfl⟩
  · exact ⟨.arguments (.inl rfl), by simp⟩
  · exact ⟨.labels, by simp⟩
  · exact ⟨.matchers, by simp⟩

/-- The chain of a list in the brackets `b` comes out with all its items and no others, each once
and in the order of the source. -/
structure Flattens (t : SyntaxTree) (b : Cursor) (list item : NodeKind) : Prop where
  chain : b.items list item = ((b.child? list).map (Cursor.items list item)).getD []
  nodes : (b.items list item).map Cursor.node = b.node.items list item
  ordered : (b.items list item).Pairwise fun x y =>
    x.node.start < y.node.start ∧ x.node.stop ≤ y.node.start
  mem_iff : ∀ c, c ∈ b.items list item ↔ c ∈ t.cursors ∧ c.kind = item ∧
    c.parentKind? = some list ∧ c.enclosing? b.kind = some b

/-- The labels of a grouping are the identifiers between its parentheses. -/
def NamesBetween (text : Text) (n : Node) : Prop :=
  ∃ before opening inside after, Token.scan text = before ++ opening :: (inside ++ after) ∧
    opening.kind = .leftParen ∧ opening.start = n.start ∧
    (∀ t ∈ inside, t.kind ≠ .rightParen) ∧
    (after = [.finish (Text.size text)] ∨
      ∃ closing rest, after = closing :: rest ∧ closing.kind = .rightParen ∧
        closing.stop = n.stop) ∧
    n.groupingNames text = inside.filterMap Token.ident?

theorem parse_flattens {text : Text} {b : Cursor} {list item : NodeKind}
    (place : b ∈ (parse text).cursors) (rule : ListRule b.kind list item)
    (present : item ≠ .error) : (parse text).Flattens b list item := by
  have chain := items_of_body rule present place rfl
  refine ⟨chain, b.items_map_node list item, ?_, fun c => mem_items_iff rule present place rfl⟩
  rw [chain]
  cases found : b.child? list with
  | none => exact .nil
  | some d =>
    have child := List.mem_of_find?_eq_some found
    have isList : d.kind = list := by simpa using List.find?_some found
    have member : d.node ∈ (parse text).nodes :=
      ((mem_cursors_iff.mp place).down child).mem_preorder
    obtain ⟨sorted, wide⟩ := items_ordered rule present member isList
    rw [← Cursor.items_map_node, List.pairwise_map] at sorted
    refine sorted.imp_of_mem fun {x y} first _ gap => ⟨?_, gap⟩
    have own := (wide x.node (by rw [← Cursor.items_map_node]; exact List.mem_map_of_mem first)).1
    omega

theorem parse_namesBetween (text : Text) {n : Node} (member : n ∈ (parse text).nodes)
    (kind : n.kind = .groupingLabels) : NamesBetween text n := by
  have order := Stream.ofText_inOrder text
  have arises := parse_arises text n member
  rw [Node.Arises, kind] at arises
  obtain ⟨s, leads, opens, rfl⟩ := arises
  obtain ⟨t, ts, next⟩ := Stream.rest_of_kind (s := s) (by simp [opens])
  obtain ⟨front, whole⟩ := leads.suffix
  have written := (Stream.ofText_written text).later leads.suffix
  obtain ⟨names, rest, last⟩ := Parser.groupingLabels_names next written
  refine ⟨front, t, Token.beforeClosing ts,
    Token.fromClosing ts ++ [.finish (Text.size text)], ?_, ?_, ?_, ?_, ?_, names⟩
  · rw [(Stream.ofText_tokens text).1, ← whole, next, ← List.append_assoc (Token.beforeClosing ts),
      Token.beforeClosing_append, List.append_assoc, List.cons_append]
  · rw [← Stream.kind_of_rest next, opens]
  · rw [← Stream.current_cons next]
    exact (Parser.start_of_reads (Parser.groupingLabels_reads 0 opens) (leads.inOrder order)).symm
  · exact fun u among => Token.kind_of_mem_beforeClosing among
  · cases found : Token.fromClosing ts with
    | nil => exact .inl rfl
    | cons closing more =>
      have stop : (Parser.groupingLabels s).2.last = closing.stop :=
        last closing (by rw [found]; rfl)
      refine .inr ⟨closing, _, List.cons_append, Token.kind_of_fromClosing found, ?_⟩
      rw [← stop, Parser.groupingLabels_stop (leads.inOrder order) opens]

/-- Lists are flattened without loss, whatever stands beside their items or inside them: the chain
of a list comes out with all its items and no others, each once and in the order of the source. The
labels of a grouping are the identifiers between its parentheses. -/
theorem parse_lists_flatten (text : Text) {b : Cursor} {list item : NodeKind}
    (place : b ∈ (parse text).cursors) (listed : (b.kind, list, item) ∈ flattenedLists) :
    (parse text).Flattens b list item ∧
      (b.kind = .groupingLabels → NamesBetween text b.node) := by
  obtain ⟨rule, present⟩ := rule_of_flattenedLists listed
  exact ⟨parse_flattens place rule present, parse_namesBetween text (node_mem_nodes place)⟩

theorem parse_lists_flatten_invalid :
    ∃ b ∈ (parse "sum by (a, 1 b) (x)".toList).cursors,
      b.kind = .groupingLabels ∧
      b.node.groupingNames "sum by (a, 1 b) (x)".toList = ["a", "b"] ∧
      (parse "sum by (a, 1 b) (x)".toList).Flattens b .groupingLabelList .groupingLabel ∧
      NamesBetween "sum by (a, 1 b) (x)".toList b.node := by
  have present : ((parse "sum by (a, 1 b) (x)".toList).cursors.find? fun b =>
      b.kind == .groupingLabels &&
        b.node.groupingNames "sum by (a, 1 b) (x)".toList == ["a", "b"]).isSome = true := by
    decide +kernel
  obtain ⟨b, found⟩ := Option.isSome_iff_exists.mp present
  have member := List.mem_of_find?_eq_some found
  have both := List.find?_some found
  rw [Bool.and_eq_true, beq_iff_eq, beq_iff_eq] at both
  have listed : (b.kind, NodeKind.groupingLabelList, NodeKind.groupingLabel) ∈ flattenedLists := by
    rw [both.1]
    decide
  have flat := parse_lists_flatten _ member listed
  exact ⟨b, member, both.1, both.2, flat.1, flat.2 both.1⟩

end SyntaxTree

end MetricQuery
