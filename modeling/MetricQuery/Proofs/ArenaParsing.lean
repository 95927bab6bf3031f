import MetricQuery.Proofs.ArenaRules

/-!
The parser on an arena makes what the parser makes, production by production. It reads on as the
parser does, every node that it asks for is there, and in the end one tree is left, which stands for
the root.
-/

set_option autoImplicit false

namespace MetricQuery

namespace Building

open MetricQuery.Parser (endsArgument closesParen endsNothing maxDepth)

variable {s : Stream}

theorem groupingItems_builds (steps : Nat) (l : Option Numbered) (as : List Numbered) :
    Builds (l.toList ++ as) s (groupingItems steps (l.map Numbered.id) (as.map Numbered.id))
      (Parser.groupingParts steps s) (Collected .groupingLabelList l as) := by
  induction steps generalizing s l as with
  | zero => exact .pure (collected_nil l as)
  | succ steps ih =>
    refine .look ?_
    rw [Parser.groupingParts]
    cases s.kind
    case rightParen => exact .move (.pure (collected_nil l as))
    case endOfInput => exact .pure (collected_nil l as)
    case ident name =>
      refine .addOne (tokenLeaf_builds .labelName) fun t isName => ?_
      refine .bind (wrap_builds .groupingLabel isName) ?_
      rintro _ _ ⟨u, rfl, rfl, isLabel⟩
      refine .pushList fun list isList => .move (.imp (ih (some list) as) fun _ _ later => ?_)
      rw [isLabel] at isList
      exact later.after (.item isList)
    all_goals
      refine .addOne (tokenLeaf_builds .error) fun t isError => ?_
      have later := ih (s := s.advance) l (as ++ [t])
      rw [List.map_append, ← List.append_assoc] at later
      exact .imp later fun _ _ later => later.after (.stray isError)

theorem groupingLabels_builds : Builds [] s groupingLabels (Parser.groupingLabels s) One :=
  .look (.move (.look (.seq (groupingItems_builds _ none []) fun _ _ all => all.close _)))

theorem expectGroupingLabels_builds :
    Builds [] s expectGroupingLabels (Parser.expectGroupingLabels s) One := by
  refine .look ?_
  unfold Parser.expectGroupingLabels
  split
  · exact groupingLabels_builds
  · exact missing_builds

theorem matcherValue_builds : Builds [] s matcherValue (Parser.matcherValue s) One := by
  refine .look ?_
  unfold Parser.matcherValue
  cases s.kind
  case string => exact tokenLeaf_builds .stringLiteral
  case comma => exact missing_builds
  case rightBrace => exact missing_builds
  case endOfInput => exact missing_builds
  all_goals exact tokenLeaf_builds .error

theorem comparison_builds : Builds [] s comparison (Parser.comparison s) All := by
  refine .look ?_
  unfold Parser.comparison
  cases s.matchOp? with
  | some op =>
    refine .replace (tokenLeaf_builds _) fun t isSymbol => ?_
    refine .replace (wrap_builds .matchOp isSymbol) fun u isOp => ?_
    refine .addOne matcherValue_builds fun v isValue => ?_
    exact .pure ⟨rfl, nodes_cons isOp (nodes_cons isValue rfl)⟩
  | none =>
    refine .look ?_
    cases s.kind
    case comma => exact missing_builds.single
    case rightBrace => exact missing_builds.single
    case endOfInput => exact missing_builds.single
    case ident => exact missing_builds.single
    all_goals
      refine .replace (tokenLeaf_builds .error) fun t isError => ?_
      refine .look ?_
      dsimp only [Stream.leaf]
      cases s.advance.kind
      case string =>
        refine .addOne (tokenLeaf_builds .stringLiteral) fun u isValue => ?_
        exact .pure ⟨rfl, nodes_cons isError (nodes_cons isValue rfl)⟩
      all_goals exact .pure ⟨rfl, nodes_cons isError rfl⟩

theorem labelMatcher_builds : Builds [] s labelMatcher (Parser.labelMatcher s) One := by
  refine .replace (tokenLeaf_builds .labelName) fun name isName => ?_
  refine .addAll comparison_builds fun made areOthers => ?_
  refine .rangeOf List.mem_cons_self ?_
  rw [isName]
  exact node_builds rfl (nodes_cons isName areOthers)

theorem matcherItems_builds (steps : Nat) (l : Option Numbered) (as : List Numbered) :
    Builds (l.toList ++ as) s (matcherItems steps (l.map Numbered.id) (as.map Numbered.id))
      (Parser.matcherParts steps s) (Collected .labelMatchList l as) := by
  induction steps generalizing s l as with
  | zero => exact .pure (collected_nil l as)
  | succ steps ih =>
    refine .look ?_
    rw [Parser.matcherParts]
    cases s.kind
    case rightBrace => exact .move (.pure (collected_nil l as))
    case endOfInput => exact .pure (collected_nil l as)
    case ident name =>
      refine .addOne labelMatcher_builds fun t isMatcher => ?_
      refine .pushList fun list isList => .move (.imp (ih (some list) as) fun _ _ later => ?_)
      rw [isMatcher] at isList
      exact later.after (.item isList)
    all_goals
      refine .addOne (tokenLeaf_builds .error) fun t isError => ?_
      have later := ih (s := s.advance) l (as ++ [t])
      rw [List.map_append, ← List.append_assoc] at later
      exact .imp later fun _ _ later => later.after (.stray isError)

theorem labelMatchers_builds : Builds [] s labelMatchers (Parser.labelMatchers s) One :=
  .look (.move (.look (.seq (matcherItems_builds _ none []) fun _ _ all => all.close _)))

theorem vectorSelector_builds : Builds [] s vectorSelector (Parser.vectorSelector s) One := by
  refine .replace (tokenLeaf_builds .identifier) fun name isName => ?_
  refine .rangeOf List.mem_cons_self ?_
  rw [isName]
  refine .replace (node_builds rfl (nodes_cons isName rfl)) fun metric isMetric => ?_
  refine .look ?_
  unfold Parser.vectorSelector
  dsimp only
  split
  · refine .addOne labelMatchers_builds fun matchers areMatchers => ?_
    exact .wrapped (node_builds rfl (nodes_cons isMetric (nodes_cons areMatchers rfl)))
  · exact .wrapped (node_builds rfl (nodes_cons isMetric rfl))

theorem aggregateModifier_builds :
    Builds [] s aggregateModifier (Parser.aggregateModifier s) One := by
  refine .look (.replace (tokenLeaf_builds _) fun keyword isKeyword => ?_)
  refine .addOne expectGroupingLabels_builds fun labels areLabels => ?_
  refine .startOf List.mem_cons_self ?_
  rw [isKeyword]
  exact node_builds rfl (nodes_cons isKeyword (nodes_cons areLabels rfl))

theorem earlyGrouping_builds : Builds [] s earlyGrouping (Parser.earlyGrouping s) All := by
  refine .look ?_
  unfold Parser.earlyGrouping
  split
  · exact aggregateModifier_builds.single
  · exact .pure all_nil

theorem lateGrouping_builds (early : Bool) :
    Builds [] s (lateGrouping early) (Parser.lateGrouping early s) All := by
  refine .look ?_
  unfold Parser.lateGrouping
  split
  · exact aggregateModifier_builds.single
  · refine .look ?_
    split
    · exact errorToken_builds.single
    · exact .pure all_nil

theorem rangeDuration_builds : Builds [] s rangeDuration (Parser.rangeDuration s) One := by
  refine .look ?_
  unfold Parser.rangeDuration
  cases s.kind
  case duration => exact tokenLeaf_builds .duration
  case number => exact tokenLeaf_builds .error
  case ident => exact tokenLeaf_builds .error
  all_goals exact missing_builds

theorem rangeStep_builds : Builds [] s rangeStep (Parser.rangeStep s) All := by
  refine .look ?_
  unfold Parser.rangeStep
  cases s.kind
  case duration => exact (tokenLeaf_builds _).single
  case number => exact (tokenLeaf_builds _).single
  all_goals exact .pure all_nil

/-- The range of an expression that stands for a node goes over that node. -/
theorem range_builds {t : Numbered} {n : Node} (isNode : t.node = n) :
    Builds [t] s (range t.id) (Parser.range n s) One := by
  refine .move (.addOne rangeDuration_builds fun duration isDuration => ?_)
  refine .look ?_
  unfold Parser.range
  by_cases subquery : (Parser.rangeDuration s.advance).2.kind = .colon
  · simp only [subquery, decide_true, if_true]
    refine .addAll (.move rangeStep_builds) fun made areStep => ?_
    refine .move (.startOf List.mem_cons_self (.look (.wrapped ?_)))
    rw [isNode]
    exact node_builds rfl (nodes_cons isNode (nodes_cons isDuration areStep))
  · simp only [subquery, decide_false, Bool.false_eq_true, if_false, pure_bind]
    refine .move (.startOf List.mem_cons_self (.look (.wrapped ?_)))
    rw [isNode]
    exact node_builds rfl (nodes_cons isNode (nodes_cons isDuration rfl))

theorem offsetDuration_builds : Builds [] s offsetDuration (Parser.offsetDuration s) One := by
  refine .look (.move (.look ?_))
  unfold Parser.offsetDuration
  dsimp only
  generalize (if s.kind = .minus && Parser.isDuration s.second.kind then s.advance else s)
    = unsigned
  cases unsigned.kind
  case duration => exact .look (.move (leaf_builds _ _ _))
  case number => exact tokenLeaf_builds .error
  all_goals exact missing_builds

theorem offset_builds {t : Numbered} {n : Node} (isNode : t.node = n) :
    Builds [t] s (offset t.id) (Parser.offset n s) One := by
  refine .addOne (tokenLeaf_builds .keywordOffset) fun keyword isKeyword => ?_
  refine .addOne offsetDuration_builds fun duration isDuration => ?_
  refine .startOf List.mem_cons_self (.look (.wrapped ?_))
  rw [isNode]
  exact node_builds rfl (nodes_cons isNode (nodes_cons isKeyword (nodes_cons isDuration rfl)))

theorem postfixes_builds {t : Numbered} {n : Node} (steps : Nat) (isNode : t.node = n) :
    Builds [t] s (postfixes steps t.id) (Parser.postfixes steps n s) One := by
  induction steps generalizing s t n with
  | zero => exact .pure ⟨t, rfl, rfl, isNode⟩
  | succ steps ih =>
    rw [Parser.postfixes]
    refine .look ?_
    split
    · refine .replace (range_builds isNode) fun u isRange => ?_
      exact ih isRange
    · refine .look ?_
      split
      · refine .replace (offset_builds isNode) fun u isOffset => ?_
        exact ih isOffset
      · exact .pure ⟨t, rfl, rfl, isNode⟩

theorem groupClause_builds : Builds [] s groupClause (Parser.groupClause s) All := by
  refine .look ?_
  unfold Parser.groupClause
  dsimp only
  generalize (if s.atKeyword "group_left" then some NodeKind.keywordGroupLeft
    else if s.atKeyword "group_right" then some .keywordGroupRight else none) = side?
  cases side? with
  | none => exact .pure all_nil
  | some side =>
    refine .replace (tokenLeaf_builds side) fun keyword isKeyword => ?_
    refine .look ?_
    dsimp only
    split
    · refine .addOne groupingLabels_builds fun labels areLabels => ?_
      exact .pure ⟨rfl, nodes_cons isKeyword (nodes_cons areLabels rfl)⟩
    · exact .pure ⟨rfl, nodes_cons isKeyword rfl⟩

theorem matchingClause_builds : Builds [] s matchingClause (Parser.matchingClause s) All := by
  refine .look ?_
  unfold Parser.matchingClause
  dsimp only
  generalize (if s.atKeyword "on" then some NodeKind.keywordOn
    else if s.atKeyword "ignoring" then some .keywordIgnoring else none) = matching?
  cases matching? with
  | none => exact .pure all_nil
  | some matching =>
    refine .replace (tokenLeaf_builds matching) fun keyword isKeyword => ?_
    refine .addOne expectGroupingLabels_builds fun labels areLabels => ?_
    refine .addAll groupClause_builds fun made areGroup => ?_
    exact .pure ⟨rfl, nodes_cons isKeyword (nodes_cons areLabels areGroup)⟩

theorem boolFlag_builds : Builds [] s boolFlag (Parser.boolFlag s) All := by
  refine .look ?_
  unfold Parser.boolFlag
  split
  · exact (tokenLeaf_builds .keywordBool).single
  · exact .pure all_nil

theorem binModifiers_builds : Builds [] s binModifiers (Parser.binModifiers s) All := by
  refine .seq boolFlag_builds ?_
  rintro _ flag ⟨rfl, areFlag⟩
  refine .addAll matchingClause_builds fun clause areClause => ?_
  unfold Parser.binModifiers
  dsimp only
  rw [← List.map_append, ← areFlag, ← areClause, ← List.map_append]
  cases flag ++ clause with
  | nil => exact .pure all_nil
  | cons first more =>
    exact .startOf List.mem_cons_self (node_builds rfl rfl).single

/-- Wherever an expression starts, work on the arena does what a parser of expressions does. -/
def SubBuilds (sub : Sub) (plain : Parser.Sub) : Prop :=
  ∀ least s, Builds [] s (sub least) (plain least s) One

section Nested

variable {sub : Sub} {plain : Parser.Sub}

theorem expectExpr_builds (nested : SubBuilds sub plain) (least : Nat) :
    Builds [] s (expectExpr sub least) (Parser.expectExpr plain least s) One := by
  refine .look ?_
  unfold Parser.expectExpr
  split
  · exact nested least s
  · exact missing_builds

theorem argument_builds (nested : SubBuilds sub plain) (l : Option Numbered) (as : List Numbered) :
    Builds (l.toList ++ as) s (argument sub (l.map Numbered.id) (as.map Numbered.id))
      (Parser.argument plain s) fun part => Collected .functionCallArgs l as [part] := by
  refine .look ?_
  unfold Parser.argument
  split
  · refine .addOne (nested 0 s) fun t isItem => ?_
    refine .pushList fun list isList => .pure ?_
    rw [isItem] at isList
    exact (Gathers.item isList).collected
  · refine .addOne missing_builds fun t isError => ?_
    have collected : Collected .functionCallArgs l as _ _ _ := (Gathers.stray isError).collected
    rw [List.map_append, ← List.append_assoc] at collected
    exact .pure collected

theorem callItems_builds (nested : SubBuilds sub plain) (steps : Nat) (l : Option Numbered)
    (as : List Numbered) :
    Builds (l.toList ++ as) s (callItems sub steps (l.map Numbered.id) (as.map Numbered.id))
      (Parser.callParts plain steps s) (Collected .functionCallArgs l as) := by
  induction steps generalizing s l as with
  | zero => exact .pure (collected_nil l as)
  | succ steps ih =>
    rw [Parser.callParts]
    refine .seq (argument_builds nested l as) ?_
    rintro _ _ ⟨l', as', rfl, same, gathers⟩
    refine .perm same (.addAll (strays_builds endsArgument) fun us areErrors => ?_)
    have all := gathers.append (.strays areErrors)
    refine .look ?_
    dsimp only
    rw [List.append_assoc, ← List.map_append]
    cases (((Parser.argument plain s).2.strays endsArgument).2).kind
    case comma => exact .move (.imp (ih l' (as' ++ us)) fun _ _ later => later.after all)
    case rightParen => exact .move (.pure all.collected)
    all_goals exact .pure all.collected

theorem arguments_builds (nested : SubBuilds sub plain) :
    Builds [] s (arguments sub) (Parser.arguments plain s)
      (Collected .functionCallArgs none []) := by
  refine .look ?_
  unfold Parser.arguments
  split
  · exact .move (.pure (collected_nil none []))
  · exact .look (callItems_builds nested _ none [])

theorem callBody_builds (nested : SubBuilds sub plain) :
    Builds [] s (callBody sub) (Parser.callBody plain s) One :=
  .look (.move (.seq (arguments_builds nested) fun _ _ all => all.close _))

theorem functionCall_builds (nested : SubBuilds sub plain) (name : String) :
    Builds [] s (functionCall sub name) (Parser.functionCall plain name s) One := by
  refine .look (.replace (tokenLeaf_builds _) fun t isName => ?_)
  refine .replace (overToken_builds rfl (nodes_cons isName rfl)) fun u isIdentifier => ?_
  refine .addOne (callBody_builds nested) fun v isBody => ?_
  exact .wrapped (overToken_builds rfl (nodes_cons isIdentifier (nodes_cons isBody rfl)))

theorem expectCallBody_builds (nested : SubBuilds sub plain) :
    Builds [] s (expectCallBody sub) (Parser.expectCallBody plain s) One := by
  refine .look ?_
  unfold Parser.expectCallBody
  split
  · exact callBody_builds nested
  · exact missing_builds

theorem aggregate_builds (nested : SubBuilds sub plain) (op : Aggregator) :
    Builds [] s (aggregate sub op) (Parser.aggregate plain op s) One := by
  refine .look (.replace (tokenLeaf_builds _) fun symbol isSymbol => ?_)
  refine .replace (overToken_builds rfl (nodes_cons isSymbol rfl)) fun outer isOp => ?_
  refine .look (.addAll earlyGrouping_builds fun before areBefore => ?_)
  refine .addOne (expectCallBody_builds nested) fun body isBody => ?_
  refine .addAll (lateGrouping_builds _) fun after areAfter => ?_
  rw [List.append_assoc]
  exact .wrapped (overToken_builds List.map_append
    (nodes_append (nodes_cons isOp areBefore) (nodes_cons isBody areAfter)))

theorem paren_builds (nested : SubBuilds sub plain) :
    Builds [] s (paren sub) (Parser.paren plain s) One := by
  refine .look (.move (.replace (expectExpr_builds nested 0) fun inner isInner => ?_))
  refine .addAll (strays_builds closesParen) fun errors areErrors => ?_
  exact .move (.look (.wrapped (node_builds rfl (nodes_cons isInner areErrors))))

theorem identExpr_builds (nested : SubBuilds sub plain) (name : String) :
    Builds [] s (identExpr sub name) (Parser.identExpr plain name s) One := by
  refine .look ?_
  unfold Parser.identExpr
  dsimp only
  generalize (if s.second.kind = .leftParen || s.second.isKeyword "by" ||
    s.second.isKeyword "without" then Aggregator.ofName? name else none) = aggregation?
  cases aggregation? with
  | some op => exact aggregate_builds nested op
  | none =>
    dsimp only
    split
    · exact functionCall_builds nested name
    · refine .look ?_
      split
      · exact (tokenLeaf_builds .numberLiteral).wrapped
      · exact vectorSelector_builds

theorem primary_builds (nested : SubBuilds sub plain) :
    Builds [] s (primary sub) (Parser.primary plain s) One := by
  refine .look ?_
  unfold Parser.primary
  dsimp only
  cases s.kind
  case number => exact (tokenLeaf_builds .numberLiteral).wrapped
  case string => exact (tokenLeaf_builds .stringLiteral).wrapped
  case leftParen => exact paren_builds nested
  case leftBrace =>
    refine .replace labelMatchers_builds fun matchers areMatchers => ?_
    exact .wrapped (wrap_builds .vectorSelector areMatchers)
  case ident name => exact identExpr_builds nested name
  all_goals exact missing_builds

theorem operand_builds (nested : SubBuilds sub plain) :
    Builds [] s (operand sub) (Parser.operand plain s) One := by
  refine .replace (primary_builds nested) fun t isPrimary => ?_
  refine .record List.mem_cons_self ?_
  unfold Parser.operand
  dsimp only [Numbered.record]
  rw [← isPrimary]
  by_cases isError : t.node.kind = .error
  · simp only [isError, if_true]
    exact .pure (one t)
  · simp only [isError, if_false]
    exact .look (postfixes_builds _ rfl)

theorem unary_builds (nested : SubBuilds sub plain) :
    Builds [] s (unary sub) (Parser.unary plain s) One := by
  refine .look ?_
  unfold Parser.unary
  dsimp only
  split
  · refine .look (.replace (tokenLeaf_builds .unaryOp) fun sign isSign => ?_)
    refine .addOne (expectExpr_builds nested _) fun inner isInner => ?_
    exact .wrapped (overToken_builds rfl (nodes_cons isSign (nodes_cons isInner rfl)))
  · exact operand_builds nested

theorem binary_builds (nested : SubBuilds sub plain) (op : BinaryOp) {t : Numbered} {n : Node}
    (isNode : t.node = n) :
    Builds [t] s (binary sub op t.id) (Parser.binary plain op n s) One := by
  refine .addOne (tokenLeaf_builds (.operator op)) fun symbol isSymbol => ?_
  refine .addAll binModifiers_builds fun modifiers areModifiers => ?_
  refine .addOne (expectExpr_builds nested _) fun rhs isRhs => ?_
  refine .startOf List.mem_cons_self (.wrapped ?_)
  rw [isNode]
  exact node_builds List.map_append
    (nodes_append (nodes_cons isNode (nodes_cons isSymbol areModifiers)) (nodes_cons isRhs rfl))

theorem binaries_builds (nested : SubBuilds sub plain) (least steps : Nat) {t : Numbered}
    {n : Node} (isNode : t.node = n) :
    Builds [t] s (binaries sub least steps t.id) (Parser.binaries plain least steps n s) One := by
  induction steps generalizing s t n with
  | zero => exact .pure ⟨t, rfl, rfl, isNode⟩
  | succ steps ih =>
    rw [Parser.binaries]
    refine .look ?_
    cases s.binaryOp? with
    | none => exact .pure ⟨t, rfl, rfl, isNode⟩
    | some op =>
      dsimp only
      split
      · exact .pure ⟨t, rfl, rfl, isNode⟩
      · refine .replace (binary_builds nested op isNode) fun u isBinary => ?_
        exact ih isBinary

end Nested

theorem expr_builds (depth : Nat) : SubBuilds (expr depth) (Parser.expr depth) := by
  induction depth with
  | zero => exact fun _ _ => swallow_builds
  | succ depth ih =>
    intro least s
    refine .replace (unary_builds ih) fun lhs isOperand => ?_
    exact .look (binaries_builds ih least _ isOperand)

theorem topExpr_builds : Builds [] s topExpr (Parser.topExpr s) All := by
  refine .look ?_
  unfold Parser.topExpr
  split
  · exact (expr_builds maxDepth 0 s).single
  · exact .pure all_nil

theorem query_builds (size : Nat) :
    Builds [] s (query size)
      (Parser.query s size, ((Parser.topExpr s).2.strays endsNothing).2) One := by
  refine .seq topExpr_builds ?_
  rintro _ exprs ⟨rfl, areExprs⟩
  refine .addAll (strays_builds endsNothing) fun errors areErrors => ?_
  exact node_builds List.map_append (nodes_append areExprs areErrors)

end Building

end MetricQuery
