import MetricQuery.Proofs.Arrangement

/-!
Layout does not matter. Two inputs whose tokens are of the same kinds are read into trees of the
same shape, wherever the tokens stand: two streams that are alike are read by every production into
nodes of the same shape, and stay alike. Offsets decide nothing but the order of what stands between
brackets, and that is the order of reading in both.
-/

set_option autoImplicit false

namespace MetricQuery

namespace Token

variable {t u : Token}

theorem isKeyword_congr (same : t.kind = u.kind) (keyword : String) :
    t.isKeyword keyword = u.isKeyword keyword := by
  rw [isKeyword, isKeyword, same]

theorem ident?_congr (same : t.kind = u.kind) : t.ident? = u.ident? := by
  rw [ident?, ident?, same]

end Token

namespace Stream

theorem InOrder.advance {s : Stream} (order : s.InOrder) : s.advance.InOrder := by
  cases next : s.rest with
  | nil =>
    simp only [Stream.advance, next]
    exact order
  | cons t rest =>
    have ordered := order.ordered
    have inside := order.inside
    rw [next] at ordered inside
    rw [advance_cons next]
    exact ⟨ordered.2.2, fun u member => inside u (List.mem_cons_of_mem t member),
      inside t List.mem_cons_self⟩

/-- Two streams in order have tokens of the same kinds left. -/
structure Alike (s s' : Stream) : Prop where
  kinds : s.rest.map Token.kind = s'.rest.map Token.kind
  left : s.InOrder
  right : s'.InOrder

namespace Alike

variable {s s' : Stream}

/-- Two streams that are alike end together, or go on with tokens of one kind. -/
theorem cases_rest (same : s.Alike s') :
    s.rest = [] ∧ s'.rest = [] ∨
      ∃ t rest t' rest', s.rest = t :: rest ∧ s'.rest = t' :: rest' ∧ t.kind = t'.kind ∧
        rest.map Token.kind = rest'.map Token.kind := by
  have kinds := same.kinds
  cases next : s.rest with
  | nil =>
    rw [next] at kinds
    exact .inl ⟨rfl, List.map_eq_nil_iff.mp kinds.symm⟩
  | cons t rest =>
    rw [next] at kinds
    obtain ⟨t', rest', next', first, tail⟩ := List.map_eq_cons_iff.mp kinds.symm
    exact .inr ⟨t, rest, t', rest', rfl, next', first.symm, tail.symm⟩

theorem length (same : s.Alike s') : s.rest.length = s'.rest.length := by
  have lengths := congrArg List.length same.kinds
  rwa [List.length_map, List.length_map] at lengths

theorem kind (same : s.Alike s') : s.kind = s'.kind := by
  rcases same.cases_rest with ⟨done, done'⟩ | ⟨t, rest, t', rest', next, next', first, -⟩
  · rw [kind_of_nil done, kind_of_nil done']
  · rw [kind_of_rest next, kind_of_rest next', first]

theorem second (same : s.Alike s') : s.second.kind = s'.second.kind := by
  rcases same.cases_rest with ⟨done, done'⟩ | ⟨t, rest, t', rest', next, next', -, tail⟩
  · simp only [Stream.second, done, done', Token.finish]
  · rw [Stream.second, Stream.second, next, next']
    cases rest with
    | nil =>
      obtain rfl := List.map_eq_nil_iff.mp tail.symm
      rfl
    | cons u rest =>
      obtain ⟨u', more, rfl, first, -⟩ := List.map_eq_cons_iff.mp tail.symm
      exact first.symm

theorem advance (same : s.Alike s') : s.advance.Alike s'.advance := by
  refine ⟨?_, same.left.advance, same.right.advance⟩
  rw [rest_advance, rest_advance, List.map_tail, List.map_tail, same.kinds]

theorem skip (same : s.Alike s') (kind : Token.Kind) : (s.skip kind).Alike (s'.skip kind) := by
  rw [Stream.skip, Stream.skip, same.kind]
  split
  · exact same.advance
  · exact same

theorem atKeyword (same : s.Alike s') (keyword : String) :
    s.atKeyword keyword = s'.atKeyword keyword :=
  Token.isKeyword_congr same.kind keyword

theorem startsExpr (same : s.Alike s') : s.startsExpr = s'.startsExpr := by
  rw [Stream.startsExpr, Stream.startsExpr, same.kind]

theorem matchOp? (same : s.Alike s') : s.matchOp? = s'.matchOp? := by
  rw [Stream.matchOp?, Stream.matchOp?, same.kind]

theorem binaryOp? (same : s.Alike s') : s.binaryOp? = s'.binaryOp? := by
  rw [Stream.binaryOp?, Stream.binaryOp?, same.kind, same.atKeyword "and", same.atKeyword "or",
    same.atKeyword "unless"]

theorem atGrouping (same : s.Alike s') : s.atGrouping = s'.atGrouping := by
  rw [Stream.atGrouping, Stream.atGrouping, same.atKeyword "by", same.atKeyword "without"]

theorem atStrayIdent (same : s.Alike s') : s.atStrayIdent = s'.atStrayIdent := by
  rw [Stream.atStrayIdent, Stream.atStrayIdent, Token.ident?_congr same.kind, same.binaryOp?,
    same.atKeyword "offset", same.atGrouping]

end Alike

end Stream

namespace Parser

/-- Two readings come to the same, as far as `view` shows, and leave streams that are alike. -/
structure Parallel {α β : Type} (view : α → β) (r r' : α × Stream) : Prop where
  seen : view r.1 = view r'.1
  after : r.2.Alike r'.2

section Readings

variable {s s' t t' : Stream}

theorem leaf_parallel (same : s.Alike s') (kind : NodeKind) :
    Parallel Node.shape (s.leaf kind) (s'.leaf kind) := ⟨rfl, same.advance⟩

theorem missing_parallel (same : s.Alike s') :
    Parallel Node.shape (s.missing, s) (s'.missing, s') := ⟨rfl, same⟩

theorem Parallel.branch {kind : NodeKind} {a b a' b' : Nat} {cs cs' : List Node}
    (children : cs.map Node.shape = cs'.map Node.shape) (after : t.Alike t') :
    Parallel Node.shape (.branch kind a b cs, t) (.branch kind a' b' cs', t') := by
  refine ⟨?_, after⟩
  rw [Node.shape_branch, Node.shape_branch, children]

theorem Parallel.wrap {n n' : Node} (inner : Parallel Node.shape (n, t) (n', t'))
    (kind : NodeKind) : Parallel Node.shape (.wrap kind n, t) (.wrap kind n', t') :=
  .branch (congrArg ([·]) inner.seen) inner.after

theorem strayNode_shape {t u : Token} (same : t.kind = u.kind) :
    (Stream.strayNode t).shape = (Stream.strayNode u).shape := by
  rw [Stream.strayNode, Stream.strayNode, Token.ident?_congr same]
  split <;> rfl

theorem strays_parallel (same : s.Alike s') (stops : Token.Kind → Bool) :
    Parallel (List.map Node.shape) (s.strays stops) (s'.strays stops) := by
  induction count : s.rest.length generalizing s s' with
  | zero =>
    have done := List.length_eq_zero_iff.mp count
    have done' := List.length_eq_zero_iff.mp (same.length.symm.trans count)
    rw [strays_nil stops done, strays_nil stops done']
    exact ⟨rfl, same⟩
  | succ count' ih =>
    rcases same.cases_rest with ⟨done, -⟩ | ⟨t, rest, t', rest', next, next', first, -⟩
    · simp [done] at count
    cases going : stops t.kind with
    | true =>
      rw [strays_stop stops next going, strays_stop stops next' (first ▸ going)]
      exact ⟨rfl, same⟩
    | false =>
      have fewer : s.advance.rest.length = count' := by
        rw [Stream.rest_advance, List.length_tail, count, Nat.add_sub_cancel]
      obtain ⟨seen, after⟩ := ih same.advance fewer
      rw [strays_cons stops next going, strays_cons stops next' (first ▸ going)]
      refine ⟨?_, after⟩
      rw [List.map_cons, List.map_cons]
      exact congrArg₂ List.cons (strayNode_shape same.kind) seen

theorem stray_shapes (ns : List Node) :
    (ns.map Part.stray).map Part.shape = (ns.map Node.shape).map (Prod.mk true) := by
  rw [List.map_map, List.map_map]
  rfl

/-- What stands between brackets has the same shape where its parts have. -/
theorem Parallel.list {kind list : NodeKind} {a b a' b' : Nat} {parts parts' : List Part}
    (inner : Parallel (List.map Part.shape) (parts, t) (parts', t'))
    (laid : PartsLaid parts) (wide : ∀ i, .item i ∈ parts → i.start < i.stop)
    (laid' : PartsLaid parts') (wide' : ∀ i, .item i ∈ parts' → i.start < i.stop) :
    Parallel Node.shape (.branch kind a b (listChildren list parts), t)
      (.branch kind a' b' (listChildren list parts'), t') := by
  refine .branch ?_ inner.after
  rw [listChildren_eq_arrange laid wide, listChildren_eq_arrange laid' wide']
  exact arrange_shape inner.seen list

theorem groupingParts_parallel (same : s.Alike s') (steps : Nat) :
    Parallel (List.map Part.shape) (groupingParts steps s) (groupingParts steps s') := by
  induction steps generalizing s s' with
  | zero => exact ⟨rfl, same⟩
  | succ steps ih =>
    rw [groupingParts, groupingParts, same.kind]
    split
    · exact ⟨rfl, same.advance⟩
    · exact ⟨rfl, same⟩
    · obtain ⟨seen, after⟩ := ih (same.advance.skip .comma)
      exact ⟨congrArg (_ :: ·) seen, after⟩
    · obtain ⟨seen, after⟩ := ih same.advance
      exact ⟨congrArg (_ :: ·) seen, after⟩

/-- Parts that were read stand side by side, and items that are never errors cover something. -/
theorem laid_of_reads {after : Stream} {parts : List Part} {body list : NodeKind} {nested : Bool}
    (read : Reads s (parts.map (Part.grown 0 nested)) after) (order : s.InOrder)
    (fits : ∀ part ∈ parts, part.Fits body list)
    (present : ∀ item, ListRule body list item → item ≠ .error) :
    PartsLaid parts ∧ ∀ i, .item i ∈ parts → i.start < i.stop := by
  have laid := PartsLaid.of_laid (read.laid order)
  exact ⟨laid, fun i member => laid.wide (.item i) member (present i.kind (fits (.item i) member))⟩

theorem groupingLabels_parallel (same : s.Alike s') :
    Parallel Node.shape (groupingLabels s) (groupingLabels s') := by
  have present : ∀ item, ListRule .groupingLabels .groupingLabelList item → item ≠ .error := by
    rintro item ⟨⟩
    simp
  obtain ⟨laid, wide⟩ := laid_of_reads (groupingParts_reads 0 s.advance.rest.length s.advance)
    same.left.advance (groupingParts_fits _ _) present
  obtain ⟨laid', wide'⟩ := laid_of_reads (groupingParts_reads 0 s.advance.rest.length s'.advance)
    same.right.advance (groupingParts_fits _ _) present
  rw [groupingLabels, groupingLabels, ← same.advance.length]
  exact .list (groupingParts_parallel same.advance _) laid wide laid' wide'

theorem expectGroupingLabels_parallel (same : s.Alike s') :
    Parallel Node.shape (expectGroupingLabels s) (expectGroupingLabels s') := by
  rw [expectGroupingLabels, expectGroupingLabels, same.kind]
  split
  · exact groupingLabels_parallel same
  · exact missing_parallel same

theorem matcherValue_parallel (same : s.Alike s') :
    Parallel Node.shape (matcherValue s) (matcherValue s') := by
  rw [matcherValue, matcherValue, same.kind]
  split
  · exact leaf_parallel same .stringLiteral
  · exact missing_parallel same
  · exact missing_parallel same
  · exact missing_parallel same
  · exact leaf_parallel same .error

theorem comparison_parallel (same : s.Alike s') :
    Parallel (List.map Node.shape) (comparison s) (comparison s') := by
  rw [comparison, comparison, same.matchOp?]
  split
  · obtain ⟨value, after⟩ := matcherValue_parallel same.advance
    exact ⟨congrArg ([_, ·]) value, after⟩
  · rw [same.kind]
    split
    · exact ⟨rfl, same⟩
    · exact ⟨rfl, same⟩
    · exact ⟨rfl, same⟩
    · exact ⟨rfl, same⟩
    · dsimp only [Stream.leaf]
      rw [same.advance.kind]
      split
      · exact ⟨rfl, same.advance.advance⟩
      · exact ⟨rfl, same.advance⟩

theorem labelMatcher_parallel (same : s.Alike s') :
    Parallel Node.shape (labelMatcher s) (labelMatcher s') := by
  obtain ⟨seen, after⟩ := comparison_parallel same.advance
  exact .branch (congrArg (_ :: ·) seen) after

theorem matcherParts_parallel (same : s.Alike s') (steps : Nat) :
    Parallel (List.map Part.shape) (matcherParts steps s) (matcherParts steps s') := by
  induction steps generalizing s s' with
  | zero => exact ⟨rfl, same⟩
  | succ steps ih =>
    rw [matcherParts, matcherParts, same.kind]
    split
    · exact ⟨rfl, same.advance⟩
    · exact ⟨rfl, same⟩
    · obtain ⟨matcher, next⟩ := labelMatcher_parallel same
      obtain ⟨seen, after⟩ := ih (next.skip .comma)
      exact ⟨congrArg₂ List.cons (congrArg (Prod.mk false) matcher) seen, after⟩
    · obtain ⟨seen, after⟩ := ih same.advance
      exact ⟨congrArg (_ :: ·) seen, after⟩

theorem labelMatchers_parallel (same : s.Alike s') :
    Parallel Node.shape (labelMatchers s) (labelMatchers s') := by
  have present : ∀ item, ListRule .labelMatchers .labelMatchList item → item ≠ .error := by
    rintro item ⟨⟩
    simp
  obtain ⟨laid, wide⟩ := laid_of_reads (matcherParts_reads 0 s.advance.rest.length s.advance)
    same.left.advance (matcherParts_fits _ _) present
  obtain ⟨laid', wide'⟩ := laid_of_reads (matcherParts_reads 0 s.advance.rest.length s'.advance)
    same.right.advance (matcherParts_fits _ _) present
  rw [labelMatchers, labelMatchers, ← same.advance.length]
  exact .list (matcherParts_parallel same.advance _) laid wide laid' wide'

theorem vectorSelector_parallel (same : s.Alike s') :
    Parallel Node.shape (vectorSelector s) (vectorSelector s') := by
  rw [vectorSelector, vectorSelector]
  dsimp only [Stream.leaf]
  rw [same.advance.kind]
  split
  · obtain ⟨matchers, after⟩ := labelMatchers_parallel same.advance
    refine Parallel.wrap (.branch ?_ after) .expr
    exact congrArg ([_, ·]) matchers
  · refine Parallel.wrap (.branch ?_ same.advance) .expr
    rfl

theorem aggregateModifier_parallel (same : s.Alike s') :
    Parallel Node.shape (aggregateModifier s) (aggregateModifier s') := by
  obtain ⟨labels, after⟩ := expectGroupingLabels_parallel same.advance
  rw [aggregateModifier, aggregateModifier, same.atKeyword "by"]
  exact .branch (congrArg ([_, ·]) labels) after

theorem earlyGrouping_parallel (same : s.Alike s') :
    Parallel (List.map Node.shape) (earlyGrouping s) (earlyGrouping s') := by
  rw [earlyGrouping, earlyGrouping, same.atGrouping]
  split
  · obtain ⟨modifier, after⟩ := aggregateModifier_parallel same
    exact ⟨congrArg ([·]) modifier, after⟩
  · exact ⟨rfl, same⟩

theorem lateGrouping_parallel (same : s.Alike s') (early : Bool) :
    Parallel (List.map Node.shape) (lateGrouping early s) (lateGrouping early s') := by
  rw [lateGrouping, lateGrouping, same.atGrouping, same.atStrayIdent]
  split
  · obtain ⟨modifier, after⟩ := aggregateModifier_parallel same
    exact ⟨congrArg ([·]) modifier, after⟩
  · split
    · exact ⟨congrArg ([·]) (strayNode_shape same.kind), same.advance⟩
    · exact ⟨rfl, same⟩

theorem rangeDuration_parallel (same : s.Alike s') :
    Parallel Node.shape (rangeDuration s) (rangeDuration s') := by
  rw [rangeDuration, rangeDuration, same.kind]
  split
  · exact leaf_parallel same .duration
  · exact leaf_parallel same .error
  · exact leaf_parallel same .error
  · exact missing_parallel same

theorem rangeStep_parallel (same : s.Alike s') :
    Parallel (List.map Node.shape) (rangeStep s) (rangeStep s') := by
  rw [rangeStep, rangeStep, same.kind]
  split
  · exact ⟨rfl, same.advance⟩
  · exact ⟨rfl, same.advance⟩
  · exact ⟨rfl, same⟩

theorem range_parallel {expr expr' : Node} (start : expr.shape = expr'.shape)
    (same : s.Alike s') : Parallel Node.shape (range expr s) (range expr' s') := by
  obtain ⟨duration, next⟩ := rangeDuration_parallel same.advance
  have step : Parallel (List.map Node.shape)
      (if (rangeDuration s.advance).2.kind = .colon then
        rangeStep (rangeDuration s.advance).2.advance else ([], (rangeDuration s.advance).2))
      (if (rangeDuration s'.advance).2.kind = .colon then
        rangeStep (rangeDuration s'.advance).2.advance
          else ([], (rangeDuration s'.advance).2)) := by
    rw [next.kind]
    split
    · exact rangeStep_parallel next.advance
    · exact ⟨rfl, next⟩
  rw [range, range]
  dsimp only
  rw [next.kind] at step ⊢
  refine Parallel.wrap (.branch ?_ (step.after.skip .rightBracket)) .expr
  exact congrArg₂ List.cons start (congrArg₂ List.cons duration step.seen)

theorem offsetDuration_parallel (same : s.Alike s') :
    Parallel Node.shape (offsetDuration s) (offsetDuration s') := by
  have next : (if s.kind = .minus && isDuration s.second.kind then s.advance else s).Alike
      (if s'.kind = .minus && isDuration s'.second.kind then s'.advance else s') := by
    rw [same.kind, same.second]
    split
    · exact same.advance
    · exact same
  rw [offsetDuration, offsetDuration, next.kind]
  split
  · exact ⟨rfl, next.advance⟩
  · exact leaf_parallel next .error
  · exact missing_parallel next

theorem offset_parallel {expr expr' : Node} (start : expr.shape = expr'.shape)
    (same : s.Alike s') : Parallel Node.shape (offset expr s) (offset expr' s') := by
  obtain ⟨duration, after⟩ := offsetDuration_parallel same.advance
  refine Parallel.wrap (.branch ?_ after) .expr
  exact congrArg₂ (fun x y => [x, _, y]) start duration

theorem postfixes_parallel {expr expr' : Node} (start : expr.shape = expr'.shape)
    (same : s.Alike s') (steps : Nat) :
    Parallel Node.shape (postfixes steps expr s) (postfixes steps expr' s') := by
  induction steps generalizing expr expr' s s' with
  | zero => exact ⟨start, same⟩
  | succ steps ih =>
    rw [postfixes, postfixes, same.kind, same.atKeyword "offset"]
    split
    · obtain ⟨seen, after⟩ := range_parallel start same
      exact ih seen after
    · split
      · obtain ⟨seen, after⟩ := offset_parallel start same
        exact ih seen after
      · exact ⟨start, same⟩

theorem groupClause_parallel (same : s.Alike s') :
    Parallel (List.map Node.shape) (groupClause s) (groupClause s') := by
  rw [groupClause, groupClause, same.atKeyword "group_left", same.atKeyword "group_right"]
  dsimp only [Stream.leaf]
  split
  · exact ⟨rfl, same⟩
  · rw [same.advance.kind]
    split
    · obtain ⟨labels, after⟩ := groupingLabels_parallel same.advance
      exact ⟨congrArg ([_, ·]) labels, after⟩
    · exact ⟨rfl, same.advance⟩

theorem matchingClause_parallel (same : s.Alike s') :
    Parallel (List.map Node.shape) (matchingClause s) (matchingClause s') := by
  rw [matchingClause, matchingClause, same.atKeyword "on", same.atKeyword "ignoring"]
  dsimp only [Stream.leaf]
  split
  · exact ⟨rfl, same⟩
  · obtain ⟨labels, next⟩ := expectGroupingLabels_parallel same.advance
    obtain ⟨group, after⟩ := groupClause_parallel next
    exact ⟨congrArg (_ :: ·) (congrArg₂ List.cons labels group), after⟩

theorem boolFlag_parallel (same : s.Alike s') :
    Parallel (List.map Node.shape) (boolFlag s) (boolFlag s') := by
  rw [boolFlag, boolFlag, same.atKeyword "bool"]
  split
  · exact ⟨rfl, same.advance⟩
  · exact ⟨rfl, same⟩

theorem binModifiers_parallel (same : s.Alike s') :
    Parallel (List.map Node.shape) (binModifiers s) (binModifiers s') := by
  obtain ⟨bool, next⟩ := boolFlag_parallel same
  obtain ⟨matching, after⟩ := matchingClause_parallel next
  have both : ((boolFlag s).1 ++ (matchingClause (boolFlag s).2).1).map Node.shape =
      ((boolFlag s').1 ++ (matchingClause (boolFlag s').2).1).map Node.shape := by
    rw [List.map_append, List.map_append, bool, matching]
  rw [binModifiers, binModifiers]
  dsimp only
  generalize (boolFlag s).1 ++ (matchingClause (boolFlag s).2).1 = children at both ⊢
  generalize (boolFlag s').1 ++ (matchingClause (boolFlag s').2).1 = children' at both ⊢
  cases children with
  | nil =>
    obtain rfl := List.map_eq_nil_iff.mp both.symm
    exact ⟨rfl, after⟩
  | cons first more =>
    obtain ⟨first', more', rfl, -, -⟩ := List.map_eq_cons_iff.mp both.symm
    refine ⟨congrArg ([·]) ?_, after⟩
    rw [Node.shape_branch, Node.shape_branch, both]

end Readings

/-- The parser of nested expressions covers what it reads, and reads what is alike into the same
shape. -/
structure SubParallel (sub : Sub) (depth : Nat) : Prop where
  reads : SubReads sub depth
  wide : ∀ least s, s.InOrder → s.startsExpr = true → (sub least s).1.start < (sub least s).1.stop
  parallel : ∀ least s s', s.Alike s' → s.startsExpr = true →
    Parallel Node.shape (sub least s) (sub least s')

section Expressions

variable {sub : Sub} {depth : Nat} (sound : SubParallel sub depth) {s s' : Stream}

include sound

theorem expectExpr_parallel (same : s.Alike s') (least : Nat) :
    Parallel Node.shape (expectExpr sub least s) (expectExpr sub least s') := by
  rw [expectExpr, expectExpr, ← same.startsExpr]
  split
  · rename_i starts
    exact sound.parallel least s s' same starts
  · exact missing_parallel same

theorem argument_parallel (same : s.Alike s') :
    Parallel Part.shape (argument sub s) (argument sub s') := by
  rw [argument, argument, ← same.startsExpr]
  split
  · rename_i starts
    obtain ⟨item, after⟩ := sound.parallel 0 s s' same starts
    exact ⟨congrArg (Prod.mk false) item, after⟩
  · exact ⟨rfl, same⟩

theorem callParts_parallel (same : s.Alike s') (steps : Nat) :
    Parallel (List.map Part.shape) (callParts sub steps s) (callParts sub steps s') := by
  induction steps generalizing s s' with
  | zero => exact ⟨rfl, same⟩
  | succ steps ih =>
    obtain ⟨item, next⟩ := argument_parallel sound same
    obtain ⟨strays, last⟩ := strays_parallel next endsArgument
    have parts : ((argument sub s).1 ::
        ((argument sub s).2.strays endsArgument).1.map Part.stray).map Part.shape =
        ((argument sub s').1 ::
          ((argument sub s').2.strays endsArgument).1.map Part.stray).map Part.shape := by
      rw [List.map_cons, List.map_cons, item, stray_shapes, stray_shapes, strays]
    rw [callParts, callParts]
    dsimp only
    rw [last.kind]
    split
    · obtain ⟨more, after⟩ := ih last.advance
      refine ⟨?_, after⟩
      rw [List.map_append, List.map_append, parts, more]
    · exact ⟨parts, last.advance⟩
    · exact ⟨parts, last⟩

theorem argument_wide (order : s.InOrder) {i : Node} (isItem : (argument sub s).1 = .item i) :
    i.start < i.stop := by
  rw [argument] at isItem
  split at isItem
  · rename_i starts
    cases isItem
    exact sound.wide 0 s order starts
  · cases isItem

/-- Every argument covers something, even one that is given up. -/
theorem callParts_wide (order : s.InOrder) (steps : Nat) :
    ∀ i, .item i ∈ (callParts sub steps s).1 → i.start < i.stop := by
  induction steps generalizing s with
  | zero => exact fun i member => absurd member List.not_mem_nil
  | succ steps ih =>
    have next := (argument_reads sound.reads s).1.inOrder order
    have last := (strays_reads 0 _ endsArgument).inOrder next
    have here : ∀ i, .item i ∈ (argument sub s).1 ::
        ((argument sub s).2.strays endsArgument).1.map Part.stray → i.start < i.stop := by
      intro i member
      rcases List.mem_cons.mp member with isItem | isStray
      · exact argument_wide sound order isItem.symm
      · obtain ⟨n, -, same⟩ := List.mem_map.mp isStray
        cases same
    rw [callParts]
    dsimp only
    split
    · intro i member
      rcases List.mem_append.mp member with member | member
      · exact here i member
      · exact ih last.advance i member
    · exact here
    · exact here

theorem arguments_parallel (same : s.Alike s') :
    Parallel (List.map Part.shape) (arguments sub s) (arguments sub s') := by
  rw [arguments, arguments, same.kind, same.length]
  split
  · exact ⟨rfl, same.advance⟩
  · exact callParts_parallel sound same _

theorem arguments_laid (order : s.InOrder) :
    PartsLaid (arguments sub s).1 ∧ ∀ i, .item i ∈ (arguments sub s).1 → i.start < i.stop := by
  rw [arguments]
  split
  · exact ⟨⟨by simp, .nil, by simp⟩, by simp⟩
  · have read := (callParts_reads sound.reads (s.rest.length + 1) s).1
    exact ⟨.of_laid (read.laid order), callParts_wide sound order _⟩

theorem callBody_parallel (same : s.Alike s') :
    Parallel Node.shape (callBody sub s) (callBody sub s') := by
  obtain ⟨laid, wide⟩ := arguments_laid sound same.left.advance
  obtain ⟨laid', wide'⟩ := arguments_laid sound same.right.advance
  exact .list (arguments_parallel sound same.advance) laid wide laid' wide'

theorem expectCallBody_parallel (same : s.Alike s') :
    Parallel Node.shape (expectCallBody sub s) (expectCallBody sub s') := by
  rw [expectCallBody, expectCallBody, same.kind]
  split
  · exact callBody_parallel sound same
  · exact missing_parallel same

theorem functionCall_parallel (same : s.Alike s') (name : String) :
    Parallel Node.shape (functionCall sub name s) (functionCall sub name s') := by
  obtain ⟨body, after⟩ := callBody_parallel sound same.advance
  refine Parallel.wrap (.branch ?_ after) .expr
  exact congrArg ([_, ·]) body

theorem aggregate_parallel (same : s.Alike s') (op : Aggregator) :
    Parallel Node.shape (aggregate sub op s) (aggregate sub op s') := by
  obtain ⟨before, next⟩ := earlyGrouping_parallel same.advance
  obtain ⟨body, last⟩ := expectCallBody_parallel sound next
  have late := lateGrouping_parallel last s.advance.atGrouping
  rw [aggregate, aggregate]
  dsimp only [Stream.leaf]
  rw [← same.advance.atGrouping]
  refine Parallel.wrap (.branch ?_ late.after) .expr
  rw [List.map_append, List.map_append, List.map_cons, List.map_cons, List.map_cons, List.map_cons,
    before, body, late.seen]
  rfl

theorem paren_parallel (same : s.Alike s') :
    Parallel Node.shape (paren sub s) (paren sub s') := by
  obtain ⟨inner, next⟩ := expectExpr_parallel sound same.advance 0
  obtain ⟨strays, last⟩ := strays_parallel next closesParen
  refine Parallel.wrap (.branch ?_ (last.skip .rightParen)) .expr
  exact congrArg₂ List.cons inner strays

theorem identExpr_parallel (same : s.Alike s') (name : String) :
    Parallel Node.shape (identExpr sub name s) (identExpr sub name s') := by
  have by_word := Token.isKeyword_congr same.second "by"
  have without_word := Token.isKeyword_congr same.second "without"
  rw [identExpr, identExpr, same.second, by_word, without_word, same.atKeyword "inf",
    same.atKeyword "nan"]
  dsimp only
  split
  · exact aggregate_parallel sound same _
  · split
    · exact functionCall_parallel sound same name
    · split
      · exact (leaf_parallel same .numberLiteral).wrap .expr
      · exact vectorSelector_parallel same

theorem primary_parallel (same : s.Alike s') :
    Parallel Node.shape (primary sub s) (primary sub s') := by
  rw [primary, primary, same.kind]
  split
  · exact (leaf_parallel same .numberLiteral).wrap .expr
  · exact (leaf_parallel same .stringLiteral).wrap .expr
  · exact paren_parallel sound same
  · exact ((labelMatchers_parallel same).wrap .vectorSelector).wrap .expr
  · exact identExpr_parallel sound same _
  · exact missing_parallel same

theorem operand_parallel (same : s.Alike s') :
    Parallel Node.shape (operand sub s) (operand sub s') := by
  obtain ⟨seen, after⟩ := primary_parallel sound same
  have kinds : (primary sub s).1.kind = (primary sub s').1.kind :=
    Node.kind_of_shape (seen.trans (Node.shape_eq _))
  rw [operand, operand]
  dsimp only
  rw [kinds, ← after.length]
  split
  · exact ⟨seen, after⟩
  · exact postfixes_parallel seen after _

theorem unary_parallel (same : s.Alike s') :
    Parallel Node.shape (unary sub s) (unary sub s') := by
  rw [unary, unary, same.kind]
  split
  · obtain ⟨inner, after⟩ := expectExpr_parallel sound same.advance BinaryOp.pow.precedence
    refine Parallel.wrap (.branch ?_ after) .expr
    exact congrArg ([_, ·]) inner
  · exact operand_parallel sound same

theorem binary_parallel {lhs lhs' : Node} (start : lhs.shape = lhs'.shape) (same : s.Alike s')
    (op : BinaryOp) : Parallel Node.shape (binary sub op lhs s) (binary sub op lhs' s') := by
  obtain ⟨modifiers, next⟩ := binModifiers_parallel same.advance
  obtain ⟨rhs, after⟩ := expectExpr_parallel sound next op.rightPrecedence
  refine Parallel.wrap (.branch ?_ after) .expr
  rw [List.map_append, List.map_append]
  exact congrArg₂ (· ++ ·) (congrArg₂ (fun x y => x :: _ :: y) start modifiers)
    (congrArg ([·]) rhs)

theorem binaries_parallel {lhs lhs' : Node} (start : lhs.shape = lhs'.shape) (same : s.Alike s')
    (least steps : Nat) :
    Parallel Node.shape (binaries sub least steps lhs s) (binaries sub least steps lhs' s') := by
  induction steps generalizing lhs lhs' s s' with
  | zero => exact ⟨start, same⟩
  | succ steps ih =>
    rw [binaries, binaries, same.binaryOp?]
    split
    · exact ⟨start, same⟩
    · split
      · exact ⟨start, same⟩
      · obtain ⟨seen, after⟩ := binary_parallel sound start same _
        exact ih seen after

end Expressions

theorem swallow_parallel {s s' : Stream} (same : s.Alike s') (starts : s.startsExpr = true) :
    Parallel Node.shape s.swallow s'.swallow := by
  have starts' := same.startsExpr.symm.trans starts
  exact ⟨rfl, rfl, (Reads.swallow starts).inOrder same.left,
    (Reads.swallow starts').inOrder same.right⟩

/-- What is given up covers something where an expression starts. -/
theorem swallow_wide {s : Stream} (order : s.InOrder) (starts : s.startsExpr = true) :
    s.swallow.1.start < s.swallow.1.stop := by
  obtain ⟨t, rest, next⟩ := Stream.rest_of_kind (Stream.kind_of_startsExpr starts)
  have more : s.rest ≠ [] := by simp [next]
  have bounds := order.bounds (List.getLast_mem more)
  simp only [Stream.swallow, Node.leaf_start, Node.leaf_stop,
    List.getLast?_eq_getLast_of_ne_nil more, Option.map_some, Option.getD_some]
  omega

theorem expr_subParallel (depth : Nat) : SubParallel (expr depth) depth := by
  induction depth with
  | zero =>
    refine ⟨expr_subReads 0, fun _ s order starts => swallow_wide order starts,
      fun _ s s' same starts => swallow_parallel same starts⟩
  | succ depth sound =>
    refine ⟨expr_subReads (depth + 1), fun least s order starts => ?_,
      fun least s s' same starts => ?_⟩
    · have reads := expr_subReads (depth + 1)
      have isExpr : (expr (depth + 1) least s).1.kind = .expr := by
        rcases reads.operand least s starts with ⟨-, isExpr⟩ | ⟨none, -⟩
        · exact isExpr
        · cases none
      exact ((reads.reads least s starts).laid order).wide _ List.mem_cons_self (by simp [isExpr])
    · obtain ⟨seen, after⟩ := unary_parallel sound same
      rw [expr, expr]
      dsimp only
      rw [← after.length]
      exact binaries_parallel sound seen after least _

theorem topExpr_parallel {s s' : Stream} (same : s.Alike s') :
    Parallel (List.map Node.shape) (topExpr s) (topExpr s') := by
  rw [topExpr, topExpr, ← same.startsExpr]
  split
  · rename_i starts
    obtain ⟨seen, after⟩ := (expr_subParallel maxDepth).parallel 0 s s' same starts
    exact ⟨congrArg ([·]) seen, after⟩
  · exact ⟨rfl, same⟩

/-- Streams that are alike are read into trees of the same shape. -/
theorem query_shape {s s' : Stream} (same : s.Alike s') (size size' : Nat) :
    (query s size).shape = (query s' size').shape := by
  obtain ⟨exprs, next⟩ := topExpr_parallel same
  obtain ⟨strays, -⟩ := strays_parallel next endsNothing
  rw [query, query]
  dsimp only
  rw [Node.shape_branch, Node.shape_branch, List.map_append, List.map_append, exprs, strays]

end Parser

namespace Node

/-- Whatever the kind of a node and what holds of its children decide, its shape decides. -/
theorem eq_of_shape {β : Type} (view : Node → β)
    (step : ∀ n m, n.kind = m.kind → n.children.map view = m.children.map view → view n = view m)
    {n m : Node} (same : n.shape = m.shape) : view n = view m := by
  rw [shape_eq, shape_eq] at same
  injection same with kinds children
  refine step n m kinds (List.ext_getElem? fun index => ?_)
  have here := congrArg (fun shapes => shapes[index]?) children
  simp only [List.getElem?_map] at here ⊢
  cases left : n.children[index]? with
  | none =>
    rw [left] at here
    rw [Option.map_eq_none_iff.mp here.symm]
  | some c =>
    rw [left] at here
    obtain ⟨d, right, inner⟩ := Option.map_eq_some_iff.mp here.symm
    have smaller := sizeOf_lt_of_mem (List.mem_of_getElem? left)
    rw [right]
    exact congrArg some (eq_of_shape view step inner.symm)
termination_by sizeOf n

theorem renderAll_congr {cs ds : List Node} (same : cs.map render = ds.map render) :
    renderAll cs = renderAll ds := by
  induction cs generalizing ds with
  | nil =>
    obtain rfl := List.map_eq_nil_iff.mp same.symm
    rfl
  | cons c cs ih =>
    obtain ⟨d, ds, rfl, first, tail⟩ := List.map_eq_cons_iff.mp same.symm
    cases cs with
    | nil =>
      obtain rfl := List.map_eq_nil_iff.mp tail
      exact first.symm
    | cons c' cs =>
      obtain ⟨d', ds, rfl, -, -⟩ := List.map_eq_cons_iff.mp tail
      change c.render ++ "," ++ renderAll (c' :: cs) = d.render ++ "," ++ renderAll (d' :: ds)
      rw [first, ih tail.symm]

theorem render_of_shape {n m : Node} (same : n.shape = m.shape) : n.render = m.render := by
  refine eq_of_shape render (fun n m kinds children => ?_) same
  cases n with | mk kind a b cs => ?_
  cases m with | mk kind' a' b' ds => ?_
  have empty : cs.isEmpty = ds.isEmpty := by
    have lengths := congrArg List.length children
    simp only [children_mk, List.length_map] at lengths
    rw [Bool.eq_iff_iff, List.isEmpty_iff_length_eq_zero, List.isEmpty_iff_length_eq_zero, lengths]
  obtain rfl : kind = kind' := kinds
  have below : renderAll cs = renderAll ds := renderAll_congr children
  rw [render, render, empty, below]

/-- The kinds below a node and how many children each has are those of its shape. -/
theorem outline_of_shape {n m : Node} (same : n.shape = m.shape) :
    (n.preorder.map fun c => (c.kind, c.children.length)) =
      m.preorder.map fun c => (c.kind, c.children.length) := by
  refine eq_of_shape (fun n => n.preorder.map fun c => (c.kind, c.children.length))
    (fun n m kinds children => ?_) same
  have lengths := congrArg List.length children
  rw [List.length_map, List.length_map] at lengths
  rw [preorder_eq n, preorder_eq m, List.map_cons, List.map_cons, List.map_flatMap,
    List.map_flatMap, List.flatMap, List.flatMap, kinds, lengths, children]

end Node

namespace Token

/-- The kinds of tokens up to the end of input. -/
def kindsBeforeEnd (ts : List Token) : List Kind := (ts.map kind).takeWhile (· != .endOfInput)

theorem Ordered.sublist {ts us : List Token} {offset : Nat} (ordered : Ordered offset us)
    (some : ts.Sublist us) : Ordered offset ts := by
  induction some generalizing offset with
  | slnil => exact ordered
  | cons u rest ih =>
    exact ih (ordered.2.2.mono (Nat.le_trans ordered.1 (Nat.le_of_lt ordered.2.1)))
  | cons_cons u rest ih => exact ⟨ordered.1, ordered.2.1, ih ordered.2.2⟩

end Token

/-- Tokens of a text, or some of them, are in order before anything is read. -/
theorem Stream.ofTokens_inOrder {text : Text} {ts : List Token}
    (some : ts.Sublist (Token.scan text)) : (Stream.ofTokens ts (Text.size text)).InOrder := by
  obtain ⟨us, scanned, ordered, placed⟩ := Token.scan_tokens text
  rw [scanned] at some
  have finish : (Stream.ofTokens ts (Text.size text)).finish = Text.size text := by
    simp only [Stream.ofTokens]
    cases found : ts.find? (·.kind == .endOfInput) with
    | none => rfl
    | some t =>
      have isEnd : t.kind = .endOfInput := by simpa using List.find?_some found
      rcases List.mem_append.mp (some.subset (List.mem_of_find?_eq_some found)) with inner | last
      · exact absurd isEnd (placed t inner).1
      · rw [List.mem_singleton.mp last]
        rfl
  have rest : (Stream.ofTokens ts (Text.size text)).rest.Sublist us := by
    let inner : Token → Bool := (·.kind != .endOfInput)
    have kept : (ts.takeWhile inner).filter inner = ts.takeWhile inner :=
      List.filter_eq_self.mpr (List.all_eq_true.mp List.all_takeWhile)
    have whole : (us ++ [Token.finish (Text.size text)]).filter inner = us := by
      have each : us.filter inner = us :=
        List.filter_eq_self.mpr fun t member => by simpa [inner] using (placed t member).1
      rw [List.filter_append, each]
      exact List.append_nil us
    have both := ((List.takeWhile_sublist inner).trans some).filter inner
    rwa [kept, whole] at both
  refine ⟨ordered.sublist rest, fun t member => ?_, ?_⟩
  · rw [finish]
    exact Text.le_size_of_isBoundary (placed t (rest.subset member)).2.2
  · exact Nat.zero_le _

/-- Tokens of the same kinds up to the end make streams that are alike. -/
theorem Stream.ofTokens_alike {text text' : Text} {ts ts' : List Token}
    (some : ts.Sublist (Token.scan text)) (some' : ts'.Sublist (Token.scan text'))
    (same : Token.kindsBeforeEnd ts = Token.kindsBeforeEnd ts') :
    (Stream.ofTokens ts (Text.size text)).Alike (Stream.ofTokens ts' (Text.size text')) := by
  refine ⟨?_, ofTokens_inOrder some, ofTokens_inOrder some'⟩
  rw [Token.kindsBeforeEnd, Token.kindsBeforeEnd, List.takeWhile_map, List.takeWhile_map] at same
  exact same

namespace SyntaxTree

/-- The kinds of the nodes and how many children each has, parents before children. -/
def outline (t : SyntaxTree) : List (NodeKind × Nat) :=
  t.nodes.map fun n => (n.kind, n.children.length)

/-- Two texts, or tokens of them, that differ in nothing but where the tokens stand are read into
trees of one shape. -/
theorem ofTokens_layout {text text' : Text} {ts ts' : List Token}
    (some : ts.Sublist (Token.scan text)) (some' : ts'.Sublist (Token.scan text'))
    (same : Token.kindsBeforeEnd ts = Token.kindsBeforeEnd ts') :
    (ofTokens ts text).render = (ofTokens ts' text').render ∧
      (ofTokens ts text).outline = (ofTokens ts' text').outline := by
  have shapes : (ofTokens ts text).root.shape = (ofTokens ts' text').root.shape :=
    Parser.query_shape (Stream.ofTokens_alike some some' same) _ _
  exact ⟨Node.render_of_shape shapes, Node.outline_of_shape shapes⟩

/-- A list with something stray and something missing in it, and the same list with blanks and a
comment between its tokens, cut off before the text goes on. -/
theorem ofTokens_layout_spread :
    Token.kindsBeforeEnd (Token.scan "f(a b,,c)".toList) =
        Token.kindsBeforeEnd ((Token.scan " f( a\tb , # gap\n ,c )+ 1".toList).take 8) ∧
      (parse "f(a b,,c)".toList).render =
        (ofTokens ((Token.scan " f( a\tb , # gap\n ,c )+ 1".toList).take 8)
          " f( a\tb , # gap\n ,c )+ 1".toList).render := by
  have same : Token.kindsBeforeEnd (Token.scan "f(a b,,c)".toList) =
      Token.kindsBeforeEnd ((Token.scan " f( a\tb , # gap\n ,c )+ 1".toList).take 8) := by
    decide +kernel
  exact ⟨same, (ofTokens_layout (List.Sublist.refl _) (List.take_sublist 8 _) same).1⟩

end SyntaxTree

end MetricQuery
