import MetricQuery.Proofs.Reading

/-!
The productions that hold no expression read as the rules allow: errors over single tokens, labels,
matchers, selectors and the modifiers of operators and aggregations.
-/

set_option autoImplicit false

namespace MetricQuery.Parser

variable (depth : Nat)

namespace Reads

/-- A token becomes a leaf. -/
theorem token {s : Stream} (kind : NodeKind) (isLeaf : kind.isLeaf = true)
    (more : s.kind ≠ .endOfInput) (valid : ∀ c, s.kind ≠ .invalid c) :
    Reads s [(depth, (s.leaf kind).1)] s.advance := by
  obtain ⟨t, rest, next⟩ := Stream.rest_of_kind more
  exact .leaf depth kind isLeaf (by simp [next]) (fun c same => absurd same (valid c))

theorem ident {s : Stream} {name : String} (kind : NodeKind) (isLeaf : kind.isLeaf = true)
    (found : s.kind = .ident name) : Reads s [(depth, (s.leaf kind).1)] s.advance :=
  token depth kind isLeaf (by simp [found]) (by simp [found])

theorem keyword {s : Stream} {word : String} (kind : NodeKind) (isLeaf : kind.isLeaf = true)
    (found : s.atKeyword word = true) : Reads s [(depth, (s.leaf kind).1)] s.advance := by
  obtain ⟨name, same⟩ := Stream.kind_of_atKeyword found
  exact ident depth kind isLeaf same

/-- Any token at all may become an error. -/
theorem errorLeaf {s : Stream} (more : s.kind ≠ .endOfInput) :
    Reads s [(depth, (s.leaf .error).1)] s.advance := by
  obtain ⟨t, rest, next⟩ := Stream.rest_of_kind more
  exact .leaf depth .error rfl (by simp [next]) (fun _ _ => rfl)

theorem stray {s : Stream} (more : s.rest ≠ []) : Reads s [(depth, s.stray.1)] s.stray.2 := by
  obtain ⟨t, rest, next⟩ := List.exists_cons_of_ne_nil more
  have kind := Stream.kind_of_rest next
  have current := Stream.current_cons next
  unfold Stream.stray Stream.strayNode
  split
  · rename_i name found
    have named : s.kind = .ident name := by
      simp only [Token.ident?] at found
      split at found
      · rename_i same
        cases found
        exact same
      · cases found
    exact (ident depth .identifier rfl named).wrap .error rfl .error
  · exact .leaf depth .error rfl more (fun _ _ => rfl)

end Reads

theorem strays_kind (s : Stream) (stops : Token.Kind → Bool) :
    ∀ n ∈ (s.strays stops).1, n.kind = .error := by
  intro n member
  obtain ⟨t, -, rfl⟩ := List.mem_map.mp member
  unfold Stream.strayNode
  split <;> rfl

theorem strays_nil {s : Stream} (stops : Token.Kind → Bool) (finished : s.rest = []) :
    s.strays stops = ([], s) := by
  obtain ⟨rest, finish, last⟩ := s
  subst finished
  rfl

theorem strays_stop {s : Stream} {t : Token} {rest : List Token} (stops : Token.Kind → Bool)
    (next : s.rest = t :: rest) (stopped : stops t.kind = true) : s.strays stops = ([], s) := by
  obtain ⟨all, finish, last⟩ := s
  subst next
  simp [Stream.strays, stopped]

/-- Strays are read one token after another. -/
theorem strays_cons {s : Stream} {t : Token} {rest : List Token} (stops : Token.Kind → Bool)
    (next : s.rest = t :: rest) (going : stops t.kind = false) :
    s.strays stops = (s.stray.1 :: (s.stray.2.strays stops).1, (s.stray.2.strays stops).2) := by
  simp only [Stream.strays, Stream.stray, Stream.advance_cons next, Stream.current_cons next, next,
    going, Bool.not_false, List.takeWhile_cons_of_pos, List.dropWhile_cons_of_pos, List.map_cons,
    List.getLast?_cons, Option.map_some, Option.getD_some, Prod.mk.injEq, Stream.mk.injEq, true_and]
  generalize rest.takeWhile _ = bad
  cases bad.getLast? <;> rfl

theorem strays_reads (s : Stream) (stops : Token.Kind → Bool) :
    Reads s ((s.strays stops).1.map (Prod.mk depth)) (s.strays stops).2 := by
  obtain ⟨rest, finish, last⟩ := s
  induction rest generalizing last with
  | nil => exact .done
  | cons t rest ih =>
    cases going : stops t.kind with
    | true =>
      rw [strays_stop stops rfl going]
      exact .done
    | false =>
      rw [strays_cons stops rfl going]
      exact (Reads.stray depth (by simp)).append (ih t.stop)

theorem groupingParts_reads (steps : Nat) (s : Stream) :
    Reads s ((groupingParts steps s).1.map (Part.grown depth false)) (groupingParts steps s).2 := by
  induction steps generalizing s with
  | zero => exact .done
  | succ steps ih =>
    rw [groupingParts]
    split
    · rename_i close
      exact .punctuation (by rw [close]; rfl)
    · exact .done
    · rename_i name found
      have label := Reads.ident depth .labelName rfl found
      have item := label.wrap .groupingLabel rfl .groupingLabel
      have comma := item.then_silent (Reads.skip s.advance .comma rfl)
      exact comma.append (ih _)
    · rename_i more _
      exact (Reads.errorLeaf depth more).append (ih _)

theorem groupingParts_fits (steps : Nat) (s : Stream) :
    ∀ part ∈ (groupingParts steps s).1, part.Fits .groupingLabels .groupingLabelList := by
  induction steps generalizing s with
  | zero => exact List.forall_mem_nil _
  | succ steps ih =>
    rw [groupingParts]
    split
    · exact List.forall_mem_nil _
    · exact List.forall_mem_nil _
    · exact List.forall_mem_cons.mpr ⟨.labels, ih _⟩
    · exact List.forall_mem_cons.mpr ⟨rfl, ih _⟩

theorem groupingLabels_reads {s : Stream} (opens : s.kind = .leftParen) :
    Reads s [(depth, (groupingLabels s).1)] (groupingLabels s).2 := by
  have silent : s.kind.isPunctuation = true := by rw [opens]; rfl
  have labels := groupingParts_reads depth s.advance.rest.length s.advance
  have fits := groupingParts_fits s.advance.rest.length s.advance
  refine .list .groupingLabelList (Reads.trans (.punctuation silent) labels) fits ⟨_, .labels⟩
    (labels.rest_length_lt silent) (.of_fits fits fun item rule => ?_)
  cases rule
  simp

@[simp] theorem groupingLabels_kind (s : Stream) :
    (groupingLabels s).1.kind = .groupingLabels := rfl

theorem expectGroupingLabels_reads (s : Stream) :
    Reads s [(depth, (expectGroupingLabels s).1)] (expectGroupingLabels s).2 := by
  unfold expectGroupingLabels
  split
  · rename_i opens
    exact groupingLabels_reads depth opens
  · exact .missing s depth

theorem expectGroupingLabels_kind (s : Stream) :
    (expectGroupingLabels s).1.kind = .groupingLabels ∨
      (expectGroupingLabels s).1.kind = .error := by
  unfold expectGroupingLabels
  split
  · exact .inl rfl
  · exact .inr rfl

theorem kind_of_matchOp? {s : Stream} {op : MatchOp} (found : s.matchOp? = some op) :
    s.kind ≠ .endOfInput ∧ ∀ c, s.kind ≠ .invalid c := by
  unfold Stream.matchOp? at found
  split at found <;> simp_all

theorem matcherValue_reads (s : Stream) :
    Reads s [(depth, (matcherValue s).1)] (matcherValue s).2 := by
  unfold matcherValue
  split
  · rename_i found
    exact .token depth .stringLiteral rfl (by simp [found]) (by simp [found])
  · exact .missing s depth
  · exact .missing s depth
  · exact .missing s depth
  · rename_i more
    exact .errorLeaf depth more

theorem matcherValue_kind (s : Stream) :
    (matcherValue s).1.kind = .stringLiteral ∨ (matcherValue s).1.kind = .error := by
  unfold matcherValue
  split
  · exact .inl rfl
  · exact .inr rfl
  · exact .inr rfl
  · exact .inr rfl
  · exact .inr rfl

theorem comparison_reads (s : Stream) :
    Reads s ((comparison s).1.map (Prod.mk depth)) (comparison s).2 := by
  unfold comparison
  split
  · rename_i op found
    obtain ⟨more, valid⟩ := kind_of_matchOp? found
    have symbol := Reads.token depth (.matchSymbol op) rfl more valid
    exact (symbol.wrap .matchOp rfl (.matchOp op)).append (matcherValue_reads depth s.advance)
  · split
    · exact .missing s depth
    · exact .missing s depth
    · exact .missing s depth
    · exact .missing s depth
    · rename_i more _
      have error := Reads.errorLeaf depth more
      dsimp only [Stream.leaf]
      split
      · rename_i value
        exact error.append
          (.token depth .stringLiteral rfl (by simp [value]) (by simp [value]))
      · exact error

/-- The kinds that follow the name of a matcher. -/
theorem comparison_kinds (s : Stream) :
    let kinds := (comparison s).1.map Node.kind
    kinds = [.matchOp, .stringLiteral] ∨ kinds = [.matchOp, .error] ∨ kinds = [.error] ∨
      kinds = [.error, .stringLiteral] := by
  unfold comparison
  split
  · rename_i op found
    rcases matcherValue_kind (s.leaf (.matchSymbol op)).2 with value | value
    · exact .inl (congrArg ([NodeKind.matchOp, ·]) value)
    · exact .inr (.inl (congrArg ([NodeKind.matchOp, ·]) value))
  · split
    · exact .inr (.inr (.inl rfl))
    · exact .inr (.inr (.inl rfl))
    · exact .inr (.inr (.inl rfl))
    · exact .inr (.inr (.inl rfl))
    · dsimp only
      split
      · exact .inr (.inr (.inr rfl))
      · exact .inr (.inr (.inl rfl))

theorem labelMatcher_reads {s : Stream} {name : String} (found : s.kind = .ident name) :
    Reads s [(depth, (labelMatcher s).1)] (labelMatcher s).2 := by
  have label := Reads.ident depth .labelName rfl found
  refine .node .labelMatcher ((s.leaf .labelName).1 :: (comparison s.advance).1)
    (label.append (comparison_reads depth s.advance)) rfl ?_ ?_
  · exact .labelMatcher (comparison_kinds s.advance)
  · exact ⟨.inr ⟨_, List.mem_cons_self, rfl⟩, .inr ⟨_, List.mem_cons_self, .inr rfl⟩⟩

theorem matcherParts_reads (steps : Nat) (s : Stream) :
    Reads s ((matcherParts steps s).1.map (Part.grown depth false)) (matcherParts steps s).2 := by
  induction steps generalizing s with
  | zero => exact .done
  | succ steps ih =>
    rw [matcherParts]
    split
    · rename_i close
      exact .punctuation (by rw [close]; rfl)
    · exact .done
    · rename_i name found
      have matcher := labelMatcher_reads depth found
      have comma := matcher.then_silent (Reads.skip (labelMatcher s).2 .comma rfl)
      exact comma.append (ih _)
    · rename_i more _
      exact (Reads.errorLeaf depth more).append (ih _)

theorem matcherParts_fits (steps : Nat) (s : Stream) :
    ∀ part ∈ (matcherParts steps s).1, part.Fits .labelMatchers .labelMatchList := by
  induction steps generalizing s with
  | zero => exact List.forall_mem_nil _
  | succ steps ih =>
    rw [matcherParts]
    split
    · exact List.forall_mem_nil _
    · exact List.forall_mem_nil _
    · exact List.forall_mem_cons.mpr ⟨.matchers, ih _⟩
    · exact List.forall_mem_cons.mpr ⟨rfl, ih _⟩

theorem labelMatchers_reads {s : Stream} (opens : s.kind = .leftBrace) :
    Reads s [(depth, (labelMatchers s).1)] (labelMatchers s).2 := by
  have silent : s.kind.isPunctuation = true := by rw [opens]; rfl
  have matchers := matcherParts_reads depth s.advance.rest.length s.advance
  have fits := matcherParts_fits s.advance.rest.length s.advance
  refine .list .labelMatchList (Reads.trans (.punctuation silent) matchers) fits ⟨_, .matchers⟩
    (matchers.rest_length_lt silent) (.of_fits fits fun item rule => ?_)
  cases rule
  simp

theorem vectorSelector_reads {s : Stream} {name : String} (found : s.kind = .ident name) :
    Reads s [(depth, (vectorSelector s).1)] (vectorSelector s).2 := by
  have label := Reads.ident depth .identifier rfl found
  have metric := label.wrap .metricIdentifier rfl .metricIdentifier
  have edges : ∀ after children,
      Edges s (.wrap .metricIdentifier (s.leaf .identifier).1 :: children)
      after (s.leaf .identifier).1.start (s.leaf .identifier).1.stop := by
    intro after children
    refine ⟨.inr ⟨_, List.mem_cons_self, ?_⟩, .inr ⟨_, List.mem_cons_self, .inr ?_⟩⟩
    · exact (Node.wrap_start _ _).symm
    · exact (Node.wrap_leaf_stop _ _ _ _).symm
  unfold vectorSelector
  dsimp only [Stream.leaf]
  split
  · rename_i opens
    have matchers := metric.append (labelMatchers_reads depth opens)
    exact (Reads.node .vectorSelector [_, _] matchers rfl
      (.vectorSelector (.inr (.inl rfl))) (edges _ _)).wrap .expr rfl (.expr rfl)
  · exact (Reads.node .vectorSelector [_] metric rfl
      (.vectorSelector (.inl rfl)) (edges _ _)).wrap .expr rfl (.expr rfl)

theorem aggregateModifier_reads {s : Stream} (found : s.atGrouping = true) :
    Reads s [(depth, (aggregateModifier s).1)] (aggregateModifier s).2 := by
  obtain ⟨name, same⟩ := Stream.kind_of_atGrouping found
  have labels := expectGroupingLabels_reads depth s.advance
  have kinds := expectGroupingLabels_kind s.advance
  have edges : ∀ kind after children, Edges s ((s.leaf kind).1 :: children) after
      s.current.start s.current.start :=
    fun _ _ _ => ⟨.inl rfl, .inr ⟨_, List.mem_cons_self, .inl rfl⟩⟩
  unfold aggregateModifier
  cases s.atKeyword "by" with
  | true =>
    have keyword := Reads.ident depth .keywordBy rfl same
    exact .node .aggregateModifier [_, _] (keyword.append labels) rfl
      (.aggregateModifier (.inl rfl) kinds) (edges _ _ _)
  | false =>
    have keyword := Reads.ident depth .keywordWithout rfl same
    exact .node .aggregateModifier [_, _] (keyword.append labels) rfl
      (.aggregateModifier (.inr rfl) kinds) (edges _ _ _)

theorem groupClause_reads (s : Stream) :
    Reads s ((groupClause s).1.map (Prod.mk depth)) (groupClause s).2 ∧
      GroupRule ((groupClause s).1.map Node.kind) := by
  unfold groupClause
  dsimp only
  split
  · exact ⟨.done, .absent⟩
  · rename_i side chosen
    have sides : (side = .keywordGroupLeft ∨ side = .keywordGroupRight) ∧
        ∃ name, s.kind = .ident name := by
      split at chosen
      · rename_i found
        cases chosen
        exact ⟨.inl rfl, Stream.kind_of_atKeyword found⟩
      · split at chosen
        · rename_i found
          cases chosen
          exact ⟨.inr rfl, Stream.kind_of_atKeyword found⟩
        · cases chosen
    obtain ⟨sides, name, found⟩ := sides
    have isLeaf : side.isLeaf = true := by rcases sides with rfl | rfl <;> rfl
    have keyword := Reads.ident depth side isLeaf found
    split
    · rename_i opens
      exact ⟨keyword.append (groupingLabels_reads depth opens), .labels sides⟩
    · exact ⟨keyword, .bare sides⟩

theorem matchingClause_reads (s : Stream) :
    Reads s ((matchingClause s).1.map (Prod.mk depth)) (matchingClause s).2 ∧
      MatchingRule ((matchingClause s).1.map Node.kind) := by
  unfold matchingClause
  dsimp only
  split
  · exact ⟨.done, .absent⟩
  · rename_i matching chosen
    have words : (matching = .keywordOn ∨ matching = .keywordIgnoring) ∧
        ∃ name, s.kind = .ident name := by
      split at chosen
      · rename_i found
        cases chosen
        exact ⟨.inl rfl, Stream.kind_of_atKeyword found⟩
      · split at chosen
        · rename_i found
          cases chosen
          exact ⟨.inr rfl, Stream.kind_of_atKeyword found⟩
        · cases chosen
    obtain ⟨words, name, found⟩ := words
    have isLeaf : matching.isLeaf = true := by rcases words with rfl | rfl <;> rfl
    have keyword := Reads.ident depth matching isLeaf found
    have labels := expectGroupingLabels_reads depth s.advance
    obtain ⟨group, rule⟩ := groupClause_reads depth (expectGroupingLabels s.advance).2
    exact ⟨keyword.append (labels.append group),
      .clause words (expectGroupingLabels_kind s.advance) rule⟩

theorem boolFlag_reads (s : Stream) :
    Reads s ((boolFlag s).1.map (Prod.mk depth)) (boolFlag s).2 ∧
      ((boolFlag s).1.map Node.kind = [] ∨ (boolFlag s).1.map Node.kind = [.keywordBool]) := by
  unfold boolFlag
  split
  · rename_i found
    exact ⟨Reads.keyword depth .keywordBool rfl found, .inr rfl⟩
  · exact ⟨.done, .inl rfl⟩

theorem binModifiers_reads (s : Stream) :
    Reads s ((binModifiers s).1.map (Prod.mk depth)) (binModifiers s).2 ∧
      ((binModifiers s).1.map Node.kind = [] ∨
        (binModifiers s).1.map Node.kind = [.binModifiers]) := by
  obtain ⟨bool, flag⟩ := boolFlag_reads depth s
  obtain ⟨matching, rule⟩ := matchingClause_reads depth (boolFlag s).2
  have both := bool.append matching
  rw [← List.map_append] at both
  unfold binModifiers
  dsimp only
  split
  · rename_i empty
    rw [empty] at both
    exact ⟨both, .inl rfl⟩
  · rename_i first more split
    have kinds := congrArg (List.map Node.kind) split
    rw [List.map_append] at kinds
    rw [split] at both
    refine ⟨?_, .inr rfl⟩
    exact .node .binModifiers (first :: more) both rfl
      (.binModifiers flag rule kinds.symm (by simp))
      ⟨.inr ⟨first, List.mem_cons_self, rfl⟩, .inr ⟨first, List.mem_cons_self, .inl rfl⟩⟩

end MetricQuery.Parser
