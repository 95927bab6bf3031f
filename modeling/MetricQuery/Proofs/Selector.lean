import MetricQuery.Proofs.Arguments
import MetricQuery.Proofs.Completeness
import MetricQuery.Proofs.Scanning
import MetricQuery.Proofs.Tiling

/-!
Selectors of series are read back as they were meant. Whatever the values of its matchers contain,
a selector is one expression without errors, and its metric, labels and operators are those it was
made of: no value can end its string early and go on as part of the query.
-/

set_option autoImplicit false

namespace MetricQuery

namespace Matcher

/-- The kinds of the tokens of a rendered matcher. -/
def kinds (m : Matcher) : List Token.Kind :=
  [.ident m.name, Phrase.symbol m.op, .string (String.ofList (Text.quote m.value.toList)) true]

/-- The kinds of the tokens of matchers between braces. -/
def bracedKinds (ms : List Matcher) : List Token.Kind :=
  .leftBrace :: Phrase.closed .rightBrace (ms.map kinds)

end Matcher

namespace Token

open Phrase (closed)

variable {rest : Text} {kinds : List Kind}

/-- An operator in front of a string is scanned as one token. -/
theorem Scans.matchOp (op : MatchOp) {value : Text}
    (later : Scans (Text.quote value ++ rest) kinds) :
    Scans (op.symbol.toList ++ (Text.quote value ++ rest)) (Phrase.symbol op :: kinds) := by
  have equals : IsSymbol '=' := isSymbol_of_mem (by decide)
  have bang : IsSymbol '!' := isSymbol_of_mem (by decide)
  cases op with
  | eqlSingle =>
    refine .single equals ?_ later
    intro d first
    obtain rfl := Option.some.inj first
    rfl
  | neq => exact .pair bang rfl later
  | eqlRegex => exact .pair equals rfl later
  | neqRegex => exact .pair bang rfl later

theorem Scans.matcher {m : Matcher} (named : m.Named) (later : Scans rest kinds) :
    Scans (m.render.toList ++ rest) (m.kinds ++ kinds) := by
  have operator := Scans.matchOp m.op (Scans.quoted m.value.toList later)
  rw [m.render_toList, List.append_assoc, List.append_assoc]
  have whole := Scans.ident named ?_ operator
  · rw [String.ofList_toList] at whole
    exact whole
  · intro d first
    generalize m.op = op at first
    cases op <;>
    · obtain rfl := Option.some.inj first
      decide

/-- The matchers of a selector, through the brace that closes them. -/
theorem Scans.matchers {ms : List Matcher} (some_matcher : ms ≠ [])
    (named : ∀ m ∈ ms, m.Named) (later : Scans rest kinds) :
    Scans ((renderMatchers ms).toList ++ '\x7d' :: rest)
      (closed .rightBrace (ms.map Matcher.kinds) ++ kinds) := by
  have alone : ∀ c, c = ',' ∨ c = '\x7d' → ∀ d, pair? c d = none := by
    rintro c (rfl | rfl) d <;> simp [pair?]
  induction ms with
  | nil => exact absurd rfl some_matcher
  | cons m ms ih =>
    obtain ⟨first, others⟩ := List.forall_mem_cons.mp named
    rw [renderMatchers_cons, List.append_assoc]
    cases ms with
    | nil =>
      have brace : Scans ('\x7d' :: rest) (.rightBrace :: kinds) :=
        .single (isSymbol_of_mem (by decide)) (fun d _ => alone _ (.inr rfl) d) later
      simpa [closed] using Scans.matcher first brace
    | cons second ms =>
      have comma := Scans.single (isSymbol_of_mem (by decide))
        (fun d _ => alone ',' (.inl rfl) d) (ih (List.cons_ne_nil _ _) others)
      have whole := Scans.matcher first comma
      simpa [closed, Token.single] using whole

end Token

/-- An identifier that stands for a metric, and not for a number. -/
def IsMetricName (metric : String) : Prop :=
  Text.IsIdentifier metric.toList ∧
    ∀ word ∈ ["inf", "nan"], Text.sameLetters metric.toList word.toList = false

theorem IsMetricName.ne_empty {metric : String} (isMetric : IsMetricName metric) : metric ≠ "" := by
  rintro rfl
  exact isMetric.1

/-- The kinds of the tokens of a metric name, which may be left out. -/
def metricKinds (metric : String) : List Token.Kind :=
  if metric = "" then [] else [.ident metric]

theorem seriesSelector_toList (metric : String) {ms : List Matcher} (some_matcher : ms ≠ [])
    (named : ∀ m ∈ ms, m.Named) :
    (seriesSelector metric (some ms)).toList =
      metric.toList ++ '\x7b' :: ((renderMatchers ms).toList ++ ['\x7d']) := by
  have kept : ms.filter (fun m => !m.name.isEmpty) = ms := by
    rw [List.filter_eq_self]
    intro m member
    have name := named m member
    cases empty : m.name.isEmpty with
    | false => rfl
    | true =>
      rw [String.isEmpty_iff] at empty
      rw [Matcher.Named, empty] at name
      exact absurd name id
  cases ms with
  | nil => exact absurd rfl some_matcher
  | cons m ms =>
    rw [seriesSelector, Option.getD_some, kept]
    simp [renderMatchers]

theorem scan_seriesSelector {metric : String} (isMetric : metric = "" ∨ IsMetricName metric)
    {ms : List Matcher} (some_matcher : ms ≠ []) (named : ∀ m ∈ ms, m.Named) :
    (Token.scan (seriesSelector metric (some ms)).toList).map Token.kind =
      metricKinds metric ++ Matcher.bracedKinds ms ++ [.endOfInput] := by
  have brace : Token.Scans.IsSymbol '\x7b' := Token.Scans.isSymbol_of_mem (by decide)
  have opened := Token.Scans.single brace (fun d _ => by simp [Token.pair?])
    (Token.Scans.matchers some_matcher named .nil)
  rw [seriesSelector_toList metric some_matcher named]
  apply Token.Scans.scan
  rcases isMetric with rfl | isMetric
  · simpa [metricKinds, Matcher.bracedKinds, Token.single] using opened
  · have whole := Token.Scans.ident isMetric.1 ?_ opened
    · simpa [metricKinds, Matcher.bracedKinds, isMetric.ne_empty, Token.single] using whole
    · intro d first
      obtain rfl := Option.some.inj first
      decide

namespace Token.Reads

variable {text : Text} {t : Token}

/-- The leaf of a token has the text of the token. -/
theorem leaf_text (reads : t.Reads text) (inner : t.kind ≠ .endOfInput) (kind : NodeKind) :
    (Node.leaf kind t.start t.stop).text text = t.kind.text := by
  have found := reads inner
  rw [Node.text, Text.sliceString, Node.leaf_start, Node.leaf_stop,
    Nat.max_eq_left (Text.le_of_slice? found), found, Option.getD_some, String.ofList_toList]

end Token.Reads

/-- A node inside a selector: no error, and no expression of its own. -/
def Node.Plain (n : Node) : Prop := n.kind ≠ .error ∧ n.kind ≠ .expr

/-- A node is read as a matcher with the label and the operator of `m`, and with what the quoted
value of `m` stands for. -/
structure Matcher.ReadsAs (text : Text) (m : Matcher) (n : Node) : Prop where
  kind : n.kind = .labelMatcher
  plain : n.Everywhere Node.Plain
  name : (ofNode text n).name = m.name
  op : (ofNode text n).op = m.op
  value : (ofNode text n).value = String.ofList (Text.unquote (Text.quote m.value.toList))

namespace Parser

variable {text : Text}

theorem labelMatcher_readsAs (m : Matcher) (s : Stream) (rest : List Token)
    (all : ∀ t ∈ s.rest, t.Reads text) (spelled : Spells s.rest m.kinds rest) :
    (∃ name, s.kind = .ident name) ∧ m.ReadsAs text (labelMatcher s).1 ∧
      (labelMatcher s).2.rest = rest := by
  obtain ⟨t, more, atLabel, isLabel, later⟩ := Spells.cons_iff.mp spelled
  obtain ⟨u, more', rfl, isSymbol, later⟩ := Spells.cons_iff.mp later
  obtain ⟨v, more'', rfl, isValue, last⟩ := Spells.cons_iff.mp later
  obtain rfl := Spells.nil_iff.mp last
  have label := (all t (by simp [atLabel])).leaf_text (by simp [isLabel]) .labelName
  have literal := (all v (by simp [atLabel])).leaf_text (by simp [isValue]) .stringLiteral
  rw [isLabel] at label
  rw [isValue] at literal
  rw [labelMatcher_eq atLabel isSymbol isValue]
  refine ⟨⟨m.name, by rw [Stream.kind_of_rest atLabel, isLabel]⟩, ⟨rfl, ?_, ?_, ?_, ?_⟩, rfl⟩
  · refine Node.everywhere_branch (by simp [Node.Plain]) ?_
    simp only [List.forall_mem_cons, List.not_mem_nil, false_implies, implies_true, and_true]
    exact ⟨Node.everywhere_leaf (by simp [Node.Plain]),
      Node.everywhere_wrap (by simp [Node.Plain]) (Node.everywhere_leaf (by simp [Node.Plain])),
      Node.everywhere_leaf (by simp [Node.Plain])⟩
  · simpa [Matcher.ofNode, Matcher.extend, Node.first?, Token.Kind.text] using label
  · simp [Matcher.ofNode, Matcher.extend, Node.first?]
  · simp [Matcher.ofNode, Matcher.extend, Node.first?, literal, Token.Kind.text]

/-- The items of a nested list are what it was made of. -/
theorem chain_items {list item : NodeKind} (different : item ≠ list) {nodes : List Node} {n : Node}
    (each : ∀ x ∈ nodes, x.kind = item) (found : chain list nodes = some n) :
    n.items list item = nodes := by
  induction nodes using List.reverseRecOn generalizing n with
  | nil => cases found
  | append_singleton front last ih =>
    rw [chain_concat] at found
    obtain rfl := Option.some.inj found
    have isItem : last.kind = item := each last (by simp)
    have own : (pushItem list (chain list front) last).last?.filter (·.kind == item) =
        some last := by
      simp [pushItem, Node.last?, isItem, Option.filter]
    rw [Node.items_eq, own]
    cases before : chain list front with
    | none =>
      have other : last.kind ≠ list := by rwa [isItem]
      simp [pushItem, Node.child?, other, chain_eq_none before]
    | some inner =>
      have isList := chain_kind list front inner (Option.mem_toList.mpr before)
      have earlier := ih (fun x member => each x (List.mem_append_left _ member)) before
      simp [pushItem, Node.child?, isList, earlier]

/-- The matchers between braces are read back. -/
theorem labelMatchers_readsAs {ms : List Matcher} (some_matcher : ms ≠ []) {s : Stream}
    {rest : List Token} (all : ∀ t ∈ s.rest, t.Reads text)
    (spelled : Spells s.rest (Matcher.bracedKinds ms) rest) :
    (labelMatchers s).1.kind = .labelMatchers ∧ (labelMatchers s).1.Everywhere Node.Plain ∧
      (∃ list, (labelMatchers s).1.child? .labelMatchList = some list ∧
        List.Forall₂ (Matcher.ReadsAs text) ms (list.items .labelMatchList .labelMatcher)) ∧
      (labelMatchers s).2.rest = rest := by
  obtain ⟨items, ⟨start, stop, same⟩, stand, done⟩ :=
    labelMatchers_each _ _ labelMatcher_readsAs ms (by simp [Matcher.kinds]) all spelled
  have each : ∀ n ∈ items, n.kind = .labelMatcher ∧ n.Everywhere Node.Plain := by
    have both : List.Forall₂ (fun n m => (n.kind = .labelMatcher ∧ n.Everywhere Node.Plain) ∧
        m.ReadsAs text n) items ms :=
      stand.flip.imp fun n m reads => ⟨⟨reads.kind, reads.plain⟩, reads⟩
    exact ((List.forall₂_and_left items ms).mp both).1
  cases found : chain .labelMatchList items with
  | none =>
    rw [chain_eq_none found] at stand
    cases stand
    exact absurd rfl some_matcher
  | some list =>
    have isList := chain_kind _ _ list (Option.mem_toList.mpr found)
    have plain := (everywhere_foldl_pushItem (P := Node.Plain) .labelMatchList items none (by simp)
      (fun n member => (each n member).2)
      (fun _ _ _ _ => by simp [pushItem, Node.Plain]) list found).2
    rw [found] at same
    rw [same]
    refine ⟨rfl, ?_, ⟨list, ?_, ?_⟩, done⟩
    · refine Node.everywhere_branch (by simp [Node.Plain]) ?_
      simpa using plain
    · simp [Node.child?, isList]
    · rwa [chain_items (by decide) (fun n member => (each n member).1) found]

/-- A node is read as the selector of a metric, which may be left out, and some matchers. -/
structure ReadsSelector (text : Text) (metric : String) (ms : List Matcher) (n : Node) : Prop where
  kind : n.kind = .vectorSelector
  plain : n.Everywhere Node.Plain
  metric : n.metricNode?.map (Node.text text) = if metric = "" then none else some metric
  matchers : List.Forall₂ (Matcher.ReadsAs text) ms n.matcherNodes

variable {metric : String} {ms : List Matcher} {s : Stream}

theorem matcherNodes_eq {n body list : Node} (inside : n.child? .labelMatchers = some body)
    (found : body.child? .labelMatchList = some list) :
    n.matcherNodes = list.items .labelMatchList .labelMatcher := by
  rw [Node.matcherNodes, Node.at?_cons, inside, Option.bind_some, Node.at?_singleton, found]

/-- Braces and their matchers alone are a selector. -/
theorem primary_matchers (sub : Sub) (some_matcher : ms ≠ []) {rest : List Token}
    (all : ∀ t ∈ s.rest, t.Reads text)
    (spelled : Spells s.rest (Matcher.bracedKinds ms) rest) :
    ∃ selector, (primary sub s).1 = .wrap .expr selector ∧ (primary sub s).2.rest = rest ∧
      ReadsSelector text "" ms selector := by
  obtain ⟨isBody, plain, ⟨list, child, stand⟩, done⟩ :=
    labelMatchers_readsAs some_matcher all spelled
  have opens : s.kind = .leftBrace := by rw [Stream.kind_eq, spelled.headKind]
  simp only [primary, opens]
  refine ⟨_, rfl, done, rfl, Node.everywhere_wrap (by simp [Node.Plain]) plain, ?_, ?_⟩
  · simp [Node.metricNode?, Node.at?_cons, Node.child?, isBody]
  · rwa [matcherNodes_eq (by simp [Node.wrap, Node.child?, isBody]) child]

/-- A name in front of the braces is the metric. -/
theorem primary_metric (sub : Sub) (isMetric : IsMetricName metric) (some_matcher : ms ≠ [])
    {rest : List Token} (all : ∀ t ∈ s.rest, t.Reads text)
    (spelled : Spells s.rest (.ident metric :: Matcher.bracedKinds ms) rest) :
    ∃ selector, (primary sub s).1 = .wrap .expr selector ∧ (primary sub s).2.rest = rest ∧
      ReadsSelector text metric ms selector := by
  obtain ⟨t, more, next, isName, braces⟩ := Spells.cons_iff.mp spelled
  -- Before a brace even the name of an aggregation or a keyword is a metric.
  have follow : Token.headKind more = .leftBrace := braces.headKind
  have left : (s.leaf .identifier).2.rest = more := Stream.advance_rest next
  have opens : (s.leaf .identifier).2.kind = .leftBrace := by rw [Stream.kind_eq, left, follow]
  have notNumber : (s.atKeyword "inf" || s.atKeyword "nan") = false := by
    rw [Stream.atKeyword_eq, Stream.atKeyword_eq, next, Token.headKind, isName,
      Bool.or_eq_false_iff]
    exact ⟨isMetric.2 "inf" (by simp), isMetric.2 "nan" (by simp)⟩
  have fewer : ∀ u ∈ (s.leaf .identifier).2.rest, u.Reads text := by
    intro u member
    rw [left] at member
    exact all u (by simp [next, member])
  obtain ⟨isBody, plain, ⟨list, child, stand⟩, done⟩ :=
    labelMatchers_readsAs some_matcher fewer (by rwa [left])
  have name := (all t (by simp [next])).leaf_text (by simp [isName]) .identifier
  rw [primary_ident next isName, identExpr_plain next (.inl follow), notNumber]
  simp only [Bool.false_eq_true, if_false, vectorSelector, opens, if_true]
  refine ⟨_, rfl, done, rfl, ?_, ?_, ?_⟩
  · refine Node.everywhere_branch (by simp [Node.Plain]) ?_
    simp only [List.forall_mem_cons, List.not_mem_nil, false_implies, implies_true, and_true]
    refine ⟨Node.everywhere_wrap (by simp [Node.Plain]) ?_, plain⟩
    exact Node.everywhere_leaf (by simp [Node.Plain])
  · rw [if_neg isMetric.ne_empty, Node.metricNode?, Node.at?_cons]
    simpa [Node.child?, Stream.leaf, Stream.current_cons next, isName, Token.Kind.text] using name
  · rwa [matcherNodes_eq (by simp [Node.child?, isBody]) child]

theorem primary_selector (sub : Sub) (isMetric : metric = "" ∨ IsMetricName metric)
    (some_matcher : ms ≠ []) {rest : List Token} (all : ∀ t ∈ s.rest, t.Reads text)
    (spelled : Spells s.rest (metricKinds metric ++ Matcher.bracedKinds ms) rest) :
    ∃ selector, (primary sub s).1 = .wrap .expr selector ∧ (primary sub s).2.rest = rest ∧
      ReadsSelector text metric ms selector := by
  rcases isMetric with rfl | isMetric
  · exact primary_matchers sub some_matcher all spelled
  · refine primary_metric sub isMetric some_matcher all ?_
    simpa [metricKinds, isMetric.ne_empty] using spelled

/-- Where nothing follows, an expression is its first operand. -/
theorem expr_of_primary (depth : Nat) {inner : Node} (unsigned : s.kind ≠ .plus ∧ s.kind ≠ .minus)
    (read : (primary (expr depth) s).1 = .wrap .expr inner)
    (done : (primary (expr depth) s).2.rest = []) :
    expr (depth + 1) 0 s = primary (expr depth) s := by
  have noSign : (decide (s.kind = .plus) || decide (s.kind = .minus)) = false := by
    simp [unsigned.1, unsigned.2]
  have valid : (primary (expr depth) s).1.kind ≠ .error := by simp [read]
  have alone : unary (expr depth) s = primary (expr depth) s := by
    have finished : (primary (expr depth) s).2.kind = .endOfInput := Stream.kind_of_nil done
    have noOffset : (primary (expr depth) s).2.atKeyword "offset" = false := by
      rw [Stream.atKeyword_eq, done]
      rfl
    simp only [unary, noSign, operand, valid]
    exact postfixes_over (by simp [finished]) noOffset _ _
  simp only [expr, alone]
  exact Stops.binaries (.inl rfl) (expr depth) _ done

/-- Tokens of a metric and matchers, and no others, are a query that is one selector. -/
theorem query_selector (isMetric : metric = "" ∨ IsMetricName metric) (some_matcher : ms ≠ [])
    (all : ∀ t ∈ s.rest, t.Reads text)
    (spelled : Spells s.rest (metricKinds metric ++ Matcher.bracedKinds ms) []) (size : Nat) :
    ∃ selector, query s size = .branch .query 0 size [.wrap .expr selector] ∧
      ReadsSelector text metric ms selector := by
  obtain ⟨depth, deep⟩ : ∃ depth, maxDepth = depth + 1 := ⟨_, rfl⟩
  obtain ⟨selector, read, done, reads⟩ :=
    primary_selector (expr depth) isMetric some_matcher all spelled
  have first : s.kind = .leftBrace ∨ s.kind = .ident metric := by
    rw [Stream.kind_eq]
    by_cases absent : metric = ""
    · rw [metricKinds, if_pos absent] at spelled
      exact .inl spelled.headKind
    · rw [metricKinds, if_neg absent] at spelled
      exact .inr spelled.headKind
  have starts : s.startsExpr = true := by
    rcases first with same | same <;> rw [Stream.startsExpr, same]
  have unsigned : s.kind ≠ .plus ∧ s.kind ≠ .minus := by
    rcases first with same | same <;> simp [same]
  have whole : expr maxDepth 0 s = primary (expr depth) s := by
    rw [deep]
    exact expr_of_primary depth unsigned read done
  refine ⟨selector, ?_, reads⟩
  simp only [query, topExpr, starts, if_true, whole, read, strays_nil endsNothing done,
    List.append_nil]

end Parser

/-- Text that is made of a metric and matchers is a query for just these. It is one expression, a
selector, without errors, and the metric, the labels and the operators are read back; whatever
quotes, escapes, braces or comment marks a value contains, it stays a value. -/
theorem SyntaxTree.parse_seriesSelector (metric : String) (ms : List Matcher)
    (isMetric : metric = "" ∨ IsMetricName metric) (some_matcher : ms ≠ [])
    (named : ∀ m ∈ ms, m.Named) :
    let t := parse (seriesSelector metric (some ms)).toList
    ∃ expr selector, t.root.children = [expr] ∧ expr.children = [selector] ∧
      selector.kind = .vectorSelector ∧ (∀ n ∈ t.nodes, n.kind ≠ .error) ∧
      t.nodes.filter (fun n => n.kind = .expr) = [expr] ∧
      selector.metricNode?.map (Node.text t.text) = (if metric = "" then none else some metric) ∧
      (selector.matcherNodes.map fun n =>
        ((Matcher.ofNode t.text n).name, (Matcher.ofNode t.text n).op)) =
          ms.map fun m => (m.name, m.op) := by
  obtain ⟨ts, scanned, -, -, whole, -⟩ := exists_tokens (seriesSelector metric (some ms)).toList
  have written := scan_seriesSelector isMetric some_matcher named
  generalize (seriesSelector metric (some ms)).toList = text at scanned whole written ⊢
  have kinds : ts.map Token.kind = metricKinds metric ++ Matcher.bracedKinds ms := by
    rw [scanned, List.map_append] at written
    exact List.append_cancel_right written
  have all : ∀ t ∈ ts, t.Reads text := by
    intro t member
    apply Token.scan_reads
    rw [scanned]
    exact List.mem_append_left _ member
  obtain ⟨selector, read, reads⟩ :=
    Parser.query_selector (s := ⟨ts, Text.size text, 0⟩) isMetric some_matcher all
      ⟨ts, (List.append_nil ts).symm, kinds⟩ (Text.size text)
  have inOrder : (parse text).nodes =
      (parse text).root :: .wrap .expr selector :: selector.preorder := by
    rw [nodes, Node.preorder_eq, whole, read]
    simp [Node.preorder_eq (.wrap .expr selector)]
  have noExpr : selector.preorder.filter (fun n => n.kind = .expr) = [] := by
    rw [List.filter_eq_nil_iff]
    intro n member
    simpa using (reads.plain n member).2
  dsimp only
  rw [inOrder, whole, read]
  refine ⟨_, selector, rfl, rfl, reads.kind, ?_, ?_, reads.metric, ?_⟩
  · simp only [List.forall_mem_cons]
    exact ⟨by simp, by simp, fun n member => (reads.plain n member).1⟩
  · simp [noExpr]
  · refine (map_eq_map_of_forall₂ (reads.matchers.imp ?_)).symm
    intro m n same
    rw [same.name, same.op]

theorem SyntaxTree.parse_seriesSelector_quotes :
    let ms : List Matcher := [⟨.neqRegex, "job", "\"\x7d,#\x7ba\\\n"⟩, ⟨.eqlSingle, "on", ""⟩]
    let t := parse (seriesSelector "up" (some ms)).toList
    IsMetricName "up" ∧ (∀ m ∈ ms, m.Named) ∧
      ∃ expr selector, t.root.children = [expr] ∧ expr.children = [selector] ∧
        selector.metricNode?.map (Node.text t.text) = some "up" ∧
        (selector.matcherNodes.map fun n =>
          ((Matcher.ofNode t.text n).name, (Matcher.ofNode t.text n).op)) =
            [("job", .neqRegex), ("on", .eqlSingle)] := by
  intro ms t
  have isMetric : IsMetricName "up" :=
    ⟨⟨by decide, by rw [← List.all_eq_true]; decide⟩, by decide⟩
  have named : ∀ m ∈ ms, m.Named := by
    simp only [ms, List.forall_mem_cons]
    exact ⟨⟨by decide, by rw [← List.all_eq_true]; decide⟩,
      ⟨by decide, by rw [← List.all_eq_true]; decide⟩, by simp⟩
  obtain ⟨expr, selector, top, inner, -, -, -, metric, matchers⟩ :=
    parse_seriesSelector "up" ms (.inr isMetric) (List.cons_ne_nil _ _) named
  exact ⟨isMetric, named, expr, selector, top, inner, metric, matchers⟩

end MetricQuery
