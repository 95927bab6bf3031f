import MetricQuery.Proofs.Brackets
import MetricQuery.Proofs.Everywhere
import MetricQuery.Proofs.ReadingExpr
import MetricQuery.Proofs.TokenRange

/-!
What a tree without errors tells about brackets. Every production that opens a bracket reads up to
the one that closes it, to the end of the input, or, after a range, to no closing bracket at all.
So brackets nest, but a square bracket may never be closed, nor any other that the input ends in.
-/

set_option autoImplicit false

namespace MetricQuery

namespace Node

/-- A tree without errors. -/
def Valid (n : Node) : Prop := n.Everywhere fun m => m.kind ≠ .error

theorem Valid.kind {n : Node} (valid : n.Valid) : n.kind ≠ .error := Everywhere.top valid

theorem Valid.child {n c : Node} (valid : n.Valid) (child : c ∈ n.children) : c.Valid :=
  Everywhere.child valid child

/-- What is made of children is valid only if they are. -/
theorem Valid.of_branch {kind : NodeKind} {a b : Nat} {children : List Node}
    (valid : (branch kind a b children).Valid) : ∀ c ∈ children, c.Valid :=
  fun _ child => valid.child child

theorem Valid.of_wrap {kind : NodeKind} {n : Node} (valid : (wrap kind n).Valid) : n.Valid :=
  valid.of_branch n List.mem_cons_self

end Node

namespace Parser

section Parts

theorem missing_invalid (s : Stream) : ¬ s.missing.Valid := fun valid => valid.kind rfl

theorem errorLeaf_invalid (s : Stream) : ¬ (s.leaf .error).1.Valid := fun valid => valid.kind rfl

/-- Strays that are valid are none, and what follows stops them. -/
theorem strays_of_valid {s : Stream} {stops : Token.Kind → Bool}
    (valid : ∀ n ∈ (s.strays stops).1, n.Valid) :
    (s.strays stops).2 = s ∧ (stops s.kind = true ∨ s.rest = []) := by
  cases next : s.rest with
  | nil => exact ⟨by rw [strays_nil stops next], .inr rfl⟩
  | cons t rest =>
    cases going : stops t.kind with
    | true =>
      rw [strays_stop stops next going, Stream.kind_of_rest next]
      exact ⟨rfl, .inl going⟩
    | false =>
      rw [strays_cons stops next going] at valid
      exact absurd (strayNode_kind s.current) (valid _ List.mem_cons_self).kind

theorem chain_valid {list : NodeKind} {items : List Node} {n : Node}
    (found : chain list items = some n) (valid : n.Valid) : ∀ item ∈ items, item.Valid := by
  induction items using List.reverseRecOn generalizing n with
  | nil => simp
  | append_singleton items item ih =>
    rw [chain_concat] at found
    obtain rfl := Option.some.inj found
    have children := valid.of_branch
    intro i member
    rcases List.mem_append.mp member with earlier | last
    · cases before : chain list items with
      | none =>
        rw [chain_eq_none before] at earlier
        cases earlier
      | some inner => exact ih before (children inner (by simp [before])) i earlier
    · rw [List.mem_singleton.mp last]
      exact children item (by simp)

/-- Where what stands between brackets is valid, so is every part of it, and none is stray. -/
theorem parts_of_valid {body list : NodeKind} {parts : List Part}
    (fits : ∀ part ∈ parts, part.Fits body list)
    (valid : ∀ c ∈ listChildren list parts, c.Valid) :
    ∀ part ∈ parts, ∃ n : Node, part = .item n ∧ n.Valid := by
  intro part member
  cases part with
  | stray n =>
    have isError : n.kind = .error := fits _ member
    exact absurd isError (valid n (mem_listChildren.mpr (.inr member))).kind
  | item n =>
    refine ⟨n, rfl, ?_⟩
    have among := mem_items.mpr member
    cases found : chain list (parts.filterMap Part.item?) with
    | none =>
      rw [chain_eq_none found] at among
      cases among
    | some whole =>
      exact chain_valid found (valid whole (mem_listChildren.mpr (.inl found))) n among

end Parts

/-- What was read ends with a bracket that closes, or with the input. -/
def Closes (b : Bracket) (s after : Stream) : Prop :=
  ∃ middle, Nests s middle ∧
    (middle.kind = b.closing ∧ after = middle.advance ∨
      middle.kind = .endOfInput ∧ after = middle)

theorem Closes.nests {b : Bracket} {s after : Stream} (closes : Closes b s.advance after)
    (opens : s.kind = b.opening) : Nests s after := by
  obtain ⟨middle, inner, ⟨closing, rfl⟩ | ⟨ending, rfl⟩⟩ := closes
  · exact .enclosed b opens inner closing
  · exact .unclosed b opens inner (.inr ending)

theorem Closes.after {b : Bracket} {s middle after : Stream} (closes : Closes b middle after)
    (first : Nests s middle) : Closes b s after := by
  obtain ⟨last, inner, ending⟩ := closes
  exact ⟨last, first.trans inner, ending⟩

theorem Closes.of_nil {b : Bracket} {s : Stream} (done : s.rest = []) : Closes b s s :=
  ⟨s, .done, .inr ⟨Stream.kind_of_nil done, rfl⟩⟩

namespace Nests

variable {s : Stream}

theorem ident {name : String} (found : s.kind = .ident name) : Nests s s.advance :=
  .plain (by rw [found]; rfl)

theorem keyword {word : String} (found : s.atKeyword word = true) : Nests s s.advance := by
  obtain ⟨name, same⟩ := Stream.kind_of_atKeyword found
  exact .ident same

/-- One of two keywords. -/
theorem chosen {one other : String} {x y kind : NodeKind}
    (chosen : (if s.atKeyword one then some x else if s.atKeyword other then some y else none) =
      some kind) : Nests s s.advance := by
  split at chosen
  · rename_i found
    exact .keyword found
  · split at chosen
    · rename_i found
      exact .keyword found
    · cases chosen

theorem skip (s : Stream) {kind : Token.Kind} (plain : kind.isPlain = true) :
    Nests s (s.skip kind) := by
  rw [Stream.skip]
  split
  · rename_i same
    exact .plain (same ▸ plain)
  · exact .done

/-- A square bracket is closed by the next token or not at all. -/
theorem square {middle : Stream} (inner : Nests s.advance middle) (opens : s.kind = .leftBracket) :
    Nests s (middle.skip .rightBracket) := by
  rw [Stream.skip]
  split
  · rename_i closes
    exact .enclosed .square opens inner closes
  · exact .unclosed .square opens inner (.inl rfl)

end Nests

theorem skip_rest_length_le (s : Stream) (kind : Token.Kind) :
    (s.skip kind).rest.length ≤ s.rest.length := by
  rw [Stream.skip]
  split
  · rw [Stream.rest_advance, List.length_tail]
    exact Nat.sub_le _ _
  · exact Nat.le_refl _

section Readings

variable {s : Stream}

/-- Labels up to the closing parenthesis, where there are steps enough for all of them. -/
theorem groupingParts_closes {steps : Nat} (enough : s.rest.length ≤ steps)
    (valid : ∀ part ∈ (groupingParts steps s).1, ∃ n : Node, part = .item n ∧ n.Valid) :
    Closes .paren s (groupingParts steps s).2 := by
  induction steps generalizing s with
  | zero => exact .of_nil (List.length_eq_zero_iff.mp (Nat.le_zero.mp enough))
  | succ steps ih =>
    revert valid
    rw [groupingParts]
    split
    · rename_i closing
      exact fun _ => ⟨s, .done, .inl ⟨closing, rfl⟩⟩
    · rename_i ending
      exact fun _ => ⟨s, .done, .inr ⟨ending, rfl⟩⟩
    · rename_i name found
      intro valid
      have fewer := Stream.rest_advance_lt (s := s) (by simp [found])
      have skipped := skip_rest_length_le s.advance .comma
      have rest := ih (s := s.advance.skip .comma) (by omega)
        fun part member => valid part (List.mem_cons_of_mem _ member)
      exact rest.after (.trans (.ident found) (.skip s.advance rfl))
    · intro valid
      obtain ⟨n, isItem, -⟩ := valid _ List.mem_cons_self
      cases isItem

theorem groupingLabels_nests (opens : s.kind = .leftParen) (valid : (groupingLabels s).1.Valid) :
    Nests s (groupingLabels s).2 := by
  have parts := parts_of_valid (groupingParts_fits s.advance.rest.length s.advance) valid.of_branch
  exact (groupingParts_closes (Nat.le_refl _) parts).nests opens

theorem expectGroupingLabels_nests (valid : (expectGroupingLabels s).1.Valid) :
    Nests s (expectGroupingLabels s).2 := by
  unfold expectGroupingLabels at valid ⊢
  split at valid
  · rename_i opens
    rw [if_pos opens]
    exact groupingLabels_nests opens valid
  · exact absurd valid (missing_invalid s)

theorem matcherValue_nests (valid : (matcherValue s).1.Valid) : Nests s (matcherValue s).2 := by
  revert valid
  unfold matcherValue
  split
  · rename_i found
    exact fun _ => .plain (by rw [found]; rfl)
  · exact fun valid => absurd valid (missing_invalid s)
  · exact fun valid => absurd valid (missing_invalid s)
  · exact fun valid => absurd valid (missing_invalid s)
  · exact fun valid => absurd valid (errorLeaf_invalid s)

theorem isPlain_of_matchOp? {op : MatchOp} (found : s.matchOp? = some op) :
    s.kind.isPlain = true := by
  rw [Stream.matchOp?] at found
  split at found <;> first | (rename_i same; rw [same]; rfl) | cases found

theorem isPlain_of_binaryOp? {op : BinaryOp} (found : s.binaryOp? = some op) :
    s.kind.isPlain = true := by
  rw [Stream.binaryOp?] at found
  split at found <;> first | (rename_i same; rw [same]; rfl) | cases found

theorem comparison_nests (valid : ∀ n ∈ (comparison s).1, n.Valid) : Nests s (comparison s).2 := by
  revert valid
  unfold comparison
  split
  · rename_i op found
    intro valid
    have value := matcherValue_nests (s := s.advance) (valid _ (by simp [Stream.leaf]))
    exact .trans (.plain (isPlain_of_matchOp? found)) value
  · split
    · exact fun valid => absurd (valid _ List.mem_cons_self) (missing_invalid s)
    · exact fun valid => absurd (valid _ List.mem_cons_self) (missing_invalid s)
    · exact fun valid => absurd (valid _ List.mem_cons_self) (missing_invalid s)
    · exact fun valid => absurd (valid _ List.mem_cons_self) (missing_invalid s)
    · dsimp only
      split
      · exact fun valid => absurd (valid _ List.mem_cons_self) (errorLeaf_invalid s)
      · exact fun valid => absurd (valid _ List.mem_cons_self) (errorLeaf_invalid s)

theorem labelMatcher_nests {name : String} (found : s.kind = .ident name)
    (valid : (labelMatcher s).1.Valid) : Nests s (labelMatcher s).2 := by
  have children := comparison_nests (s := s.advance) fun n member =>
    valid.of_branch n (List.mem_cons_of_mem _ member)
  exact .trans (.ident found) children

theorem matcherParts_closes {steps : Nat} (enough : s.rest.length ≤ steps)
    (valid : ∀ part ∈ (matcherParts steps s).1, ∃ n : Node, part = .item n ∧ n.Valid) :
    Closes .brace s (matcherParts steps s).2 := by
  induction steps generalizing s with
  | zero => exact .of_nil (List.length_eq_zero_iff.mp (Nat.le_zero.mp enough))
  | succ steps ih =>
    revert valid
    rw [matcherParts]
    split
    · rename_i closing
      exact fun _ => ⟨s, .done, .inl ⟨closing, rfl⟩⟩
    · rename_i ending
      exact fun _ => ⟨s, .done, .inr ⟨ending, rfl⟩⟩
    · rename_i name found
      intro valid
      obtain ⟨n, same, matcher⟩ := valid _ List.mem_cons_self
      cases same
      have fewer := Stream.rest_advance_lt (s := s) (by simp [found])
      have read : (labelMatcher s).2.rest.length ≤ s.advance.rest.length :=
        (comparison_reads 0 s.advance).rest_length_le
      have skipped := skip_rest_length_le (labelMatcher s).2 .comma
      have rest := ih (s := (labelMatcher s).2.skip .comma) (by omega)
        fun part member => valid part (List.mem_cons_of_mem _ member)
      exact rest.after (.trans (labelMatcher_nests found matcher) (.skip _ rfl))
    · intro valid
      obtain ⟨n, isItem, -⟩ := valid _ List.mem_cons_self
      cases isItem

theorem labelMatchers_nests (opens : s.kind = .leftBrace) (valid : (labelMatchers s).1.Valid) :
    Nests s (labelMatchers s).2 := by
  have parts := parts_of_valid (matcherParts_fits s.advance.rest.length s.advance) valid.of_branch
  exact (matcherParts_closes (Nat.le_refl _) parts).nests opens

theorem vectorSelector_nests {name : String} (found : s.kind = .ident name)
    (valid : (vectorSelector s).1.Valid) : Nests s (vectorSelector s).2 := by
  revert valid
  unfold vectorSelector
  dsimp only [Stream.leaf]
  split
  · rename_i opens
    intro valid
    have matchers := labelMatchers_nests opens (valid.of_wrap.of_branch _ (by simp))
    exact .trans (.ident found) matchers
  · exact fun _ => .ident found

theorem aggregateModifier_nests (found : s.atGrouping = true)
    (valid : (aggregateModifier s).1.Valid) : Nests s (aggregateModifier s).2 := by
  obtain ⟨name, same⟩ := Stream.kind_of_atGrouping found
  have labels := expectGroupingLabels_nests (s := s.advance)
    (valid.of_branch _ (List.mem_cons_of_mem _ List.mem_cons_self))
  exact .trans (.ident same) labels

theorem earlyGrouping_nests (valid : ∀ n ∈ (earlyGrouping s).1, n.Valid) :
    Nests s (earlyGrouping s).2 := by
  revert valid
  unfold earlyGrouping
  split
  · rename_i found
    exact fun valid => aggregateModifier_nests found (valid _ List.mem_cons_self)
  · exact fun _ => .done

theorem lateGrouping_nests {early : Bool} (valid : ∀ n ∈ (lateGrouping early s).1, n.Valid) :
    Nests s (lateGrouping early s).2 := by
  revert valid
  unfold lateGrouping
  split
  · rename_i found
    rw [Bool.and_eq_true] at found
    exact fun valid => aggregateModifier_nests found.2 (valid _ List.mem_cons_self)
  · split
    · exact fun valid =>
        absurd (strayNode_kind s.current) (valid _ List.mem_cons_self).kind
    · exact fun _ => .done

theorem rangeDuration_nests (valid : (rangeDuration s).1.Valid) : Nests s (rangeDuration s).2 := by
  revert valid
  unfold rangeDuration
  split
  · rename_i found
    exact fun _ => .plain (by rw [found]; rfl)
  · exact fun valid => absurd valid (errorLeaf_invalid s)
  · exact fun valid => absurd valid (errorLeaf_invalid s)
  · exact fun valid => absurd valid (missing_invalid s)

theorem rangeStep_nests (valid : ∀ n ∈ (rangeStep s).1, n.Valid) : Nests s (rangeStep s).2 := by
  revert valid
  unfold rangeStep
  split
  · rename_i found
    exact fun _ => .plain (by rw [found]; rfl)
  · exact fun valid => absurd (valid _ List.mem_cons_self) (errorLeaf_invalid s)
  · exact fun _ => .done

/-- A range is closed or not. -/
theorem range_nests {expr : Node} (opens : s.kind = .leftBracket)
    (valid : (range expr s).1.Valid) : expr.Valid ∧ Nests s (range expr s).2 := by
  unfold range at valid ⊢
  dsimp only at valid ⊢
  have children := valid.of_wrap.of_branch
  have duration := rangeDuration_nests (s := s.advance)
    (children _ (List.mem_cons_of_mem _ List.mem_cons_self))
  refine ⟨children expr List.mem_cons_self, ?_⟩
  have rest := fun n member => children n (List.mem_cons_of_mem _ (List.mem_cons_of_mem _ member))
  generalize (rangeDuration s.advance).2 = next at duration rest ⊢
  have step : Nests next
      (if next.kind = .colon then rangeStep next.advance else (([] : List Node), next)).2 := by
    split
    · rename_i colon
      rw [if_pos colon] at rest
      exact .trans (.plain (by rw [colon]; rfl)) (rangeStep_nests rest)
    · exact .done
  exact (duration.trans step).square opens

theorem offsetDuration_nests (valid : (offsetDuration s).1.Valid) :
    Nests s (offsetDuration s).2 := by
  have sign : Nests s
      (if s.kind = .minus && isDuration s.second.kind then s.advance else s) := by
    split
    · rename_i signed
      rw [Bool.and_eq_true, decide_eq_true_eq] at signed
      exact .plain (by rw [signed.1]; rfl)
    · exact .done
  revert valid
  rw [offsetDuration]
  split
  · rename_i found
    exact fun _ => sign.trans (.plain (by rw [found]; rfl))
  · exact fun valid => absurd valid (errorLeaf_invalid _)
  · exact fun valid => absurd valid (missing_invalid _)

theorem offset_nests {expr : Node} (found : s.atKeyword "offset" = true)
    (valid : (offset expr s).1.Valid) : expr.Valid ∧ Nests s (offset expr s).2 := by
  have children := valid.of_wrap.of_branch
  have duration := offsetDuration_nests (s := s.advance)
    (children _ (List.mem_cons_of_mem _ (List.mem_cons_of_mem _ List.mem_cons_self)))
  exact ⟨children expr List.mem_cons_self, .trans (.keyword found) duration⟩

theorem postfixes_nests {expr : Node} {steps : Nat} (valid : (postfixes steps expr s).1.Valid) :
    expr.Valid ∧ Nests s (postfixes steps expr s).2 := by
  induction steps generalizing expr s with
  | zero => exact ⟨valid, .done⟩
  | succ steps ih =>
    revert valid
    rw [postfixes]
    split
    · rename_i opens
      intro valid
      obtain ⟨inner, rest⟩ := ih valid
      obtain ⟨start, first⟩ := range_nests opens inner
      exact ⟨start, first.trans rest⟩
    · split
      · rename_i found
        intro valid
        obtain ⟨inner, rest⟩ := ih valid
        obtain ⟨start, first⟩ := offset_nests found inner
        exact ⟨start, first.trans rest⟩
      · exact fun valid => ⟨valid, .done⟩

theorem groupClause_nests (valid : ∀ n ∈ (groupClause s).1, n.Valid) :
    Nests s (groupClause s).2 := by
  revert valid
  unfold groupClause
  dsimp only
  split
  · exact fun _ => .done
  · rename_i side chosen
    have keyword := Nests.chosen chosen
    split
    · rename_i opens
      exact fun valid => keyword.trans (groupingLabels_nests opens
        (valid _ (List.mem_cons_of_mem _ List.mem_cons_self)))
    · exact fun _ => keyword

theorem matchingClause_nests (valid : ∀ n ∈ (matchingClause s).1, n.Valid) :
    Nests s (matchingClause s).2 := by
  revert valid
  unfold matchingClause
  dsimp only
  split
  · exact fun _ => .done
  · rename_i matching chosen
    have keyword := Nests.chosen chosen
    intro valid
    have labels := expectGroupingLabels_nests (s := s.advance)
      (valid _ (List.mem_cons_of_mem _ List.mem_cons_self))
    have group := groupClause_nests fun n member =>
      valid n (List.mem_cons_of_mem _ (List.mem_cons_of_mem _ member))
    exact keyword.trans (labels.trans group)

theorem boolFlag_nests (s : Stream) : Nests s (boolFlag s).2 := by
  unfold boolFlag
  split
  · rename_i found
    exact .keyword found
  · exact .done

theorem binModifiers_nests (valid : ∀ n ∈ (binModifiers s).1, n.Valid) :
    Nests s (binModifiers s).2 := by
  have parts : ∀ n ∈ (boolFlag s).1 ++ (matchingClause (boolFlag s).2).1, n.Valid := by
    intro n member
    unfold binModifiers at valid
    dsimp only at valid
    split at valid
    · rename_i none
      rw [none] at member
      cases member
    · rename_i first more same
      rw [same] at member
      exact (valid _ List.mem_cons_self).of_branch n member
  have after : (binModifiers s).2 = (matchingClause (boolFlag s).2).2 := by
    unfold binModifiers
    dsimp only
    split <;> rfl
  rw [after]
  exact (boolFlag_nests s).trans
    (matchingClause_nests fun n member => parts n (List.mem_append_right _ member))

end Readings

/-- The parser of nested expressions reads brackets that nest, where it gives no error. -/
def SubNests (sub : Sub) : Prop :=
  ∀ least s, s.startsExpr = true → (sub least s).1.Valid → Nests s (sub least s).2

section Expressions

variable {sub : Sub} {depth : Nat} (reads : SubReads sub depth) (sound : SubNests sub) {s : Stream}

section

include sound

theorem expectExpr_nests {least : Nat} (valid : (expectExpr sub least s).1.Valid) :
    Nests s (expectExpr sub least s).2 := by
  revert valid
  unfold expectExpr
  split
  · rename_i starts
    exact sound least s starts
  · exact fun valid => absurd valid (missing_invalid s)

theorem argument_nests {n : Node} (isItem : (argument sub s).1 = .item n) (valid : n.Valid) :
    Nests s (argument sub s).2 := by
  revert isItem
  unfold argument
  split
  · rename_i starts
    intro isItem
    cases isItem
    exact sound 0 s starts valid
  · exact fun isItem => by cases isItem

theorem paren_nests (opens : s.kind = .leftParen) (valid : (paren sub s).1.Valid) :
    Nests s (paren sub s).2 := by
  unfold paren at valid ⊢
  dsimp only at valid ⊢
  have children := valid.of_wrap.of_branch
  have inner := expectExpr_nests sound (s := s.advance) (children _ List.mem_cons_self)
  obtain ⟨same, ends⟩ := strays_of_valid fun n member =>
    children n (List.mem_cons_of_mem _ member)
  rw [same, Stream.skip]
  split
  · rename_i closes
    exact .enclosed .paren opens inner closes
  · rename_i open_
    have done := ends.resolve_left fun stops => by
      rw [closesParen] at stops
      · cases stops
      · exact open_
    exact .unclosed .paren opens inner (.inr (Stream.kind_of_nil done))

theorem binary_nests {op : BinaryOp} {lhs : Node} (found : s.binaryOp? = some op)
    (valid : (binary sub op lhs s).1.Valid) : lhs.Valid ∧ Nests s (binary sub op lhs s).2 := by
  unfold binary at valid ⊢
  dsimp only at valid ⊢
  have children := valid.of_wrap.of_branch
  have modifiers := binModifiers_nests (s := s.advance) fun n member =>
    children n (List.mem_append_left _ (List.mem_cons_of_mem _ (List.mem_cons_of_mem _ member)))
  have rhs := expectExpr_nests sound (children _ (List.mem_append_right _ List.mem_cons_self))
  exact ⟨children lhs List.mem_cons_self,
    .trans (.plain (isPlain_of_binaryOp? found)) (modifiers.trans rhs)⟩

theorem binaries_nests {least steps : Nat} {lhs : Node}
    (valid : (binaries sub least steps lhs s).1.Valid) :
    lhs.Valid ∧ Nests s (binaries sub least steps lhs s).2 := by
  induction steps generalizing lhs s with
  | zero => exact ⟨valid, .done⟩
  | succ steps ih =>
    revert valid
    rw [binaries]
    split
    · exact fun valid => ⟨valid, .done⟩
    · rename_i op found
      split
      · exact fun valid => ⟨valid, .done⟩
      · intro valid
        obtain ⟨inner, rest⟩ := ih valid
        obtain ⟨start, first⟩ := binary_nests sound found inner
        exact ⟨start, first.trans rest⟩

end

include reads sound

/-- An argument with nothing stray behind it, up to what ends it. -/
theorem argument_ends
    (valid : ∀ part ∈ (argument sub s).1 ::
      ((argument sub s).2.strays endsArgument).1.map Part.stray,
      ∃ n : Node, part = .item n ∧ n.Valid) :
    ∃ after, ((argument sub s).2.strays endsArgument).2 = after ∧ Nests s after ∧
      after.rest.length ≤ s.rest.length ∧ (endsArgument after.kind = true ∨ after.rest = []) := by
  obtain ⟨n, isItem, itemValid⟩ := valid _ List.mem_cons_self
  have none : ∀ n ∈ ((argument sub s).2.strays endsArgument).1, n.Valid := by
    intro n member
    obtain ⟨m, isItem, -⟩ := valid (.stray n) (List.mem_cons_of_mem _ (List.mem_map_of_mem member))
    cases isItem
  obtain ⟨same, ends⟩ := strays_of_valid none
  exact ⟨_, same, argument_nests sound isItem itemValid,
    (argument_reads reads s).1.rest_length_le, ends⟩

/-- Arguments up to the closing parenthesis, where there are steps enough for all of them. -/
theorem callParts_closes {steps : Nat} (enough : s.rest.length < steps)
    (valid : ∀ part ∈ (callParts sub steps s).1, ∃ n : Node, part = .item n ∧ n.Valid) :
    Closes .paren s (callParts sub steps s).2 := by
  induction steps generalizing s with
  | zero => exact absurd enough (Nat.not_lt_zero _)
  | succ steps ih =>
    revert valid
    rw [callParts]
    dsimp only
    split
    · rename_i comma
      intro valid
      obtain ⟨after, same, first, fewer, -⟩ := argument_ends reads sound fun part member =>
        valid part (List.mem_append_left _ member)
      rw [same] at comma valid ⊢
      have next := Stream.rest_advance_lt (s := after) (by simp [comma])
      have rest := ih (s := after.advance) (by omega) fun part member =>
        valid part (List.mem_append_right _ member)
      exact rest.after (first.trans (.plain (by rw [comma]; rfl)))
    · rename_i closing
      intro valid
      obtain ⟨after, same, first, -⟩ := argument_ends reads sound valid
      rw [same] at closing ⊢
      exact ⟨after, first, .inl ⟨closing, rfl⟩⟩
    · rename_i notComma notClosing
      intro valid
      obtain ⟨after, same, first, -, ends⟩ := argument_ends reads sound valid
      rw [same] at notComma notClosing ⊢
      have done : after.rest = [] := by
        refine ends.resolve_left fun stops => ?_
        rw [endsArgument] at stops
        · cases stops
        · exact notComma
        · exact notClosing
      exact ⟨after, first, .inr ⟨Stream.kind_of_nil done, rfl⟩⟩

theorem callBody_nests (opens : s.kind = .leftParen) (valid : (callBody sub s).1.Valid) :
    Nests s (callBody sub s).2 := by
  have children := valid.of_branch
  suffices closes : Closes .paren s.advance (arguments sub s.advance).2 from closes.nests opens
  change ∀ c ∈ listChildren .functionCallArgs (arguments sub s.advance).1, c.Valid at children
  unfold arguments at children ⊢
  split
  · rename_i closing
    exact ⟨s.advance, .done, .inl ⟨closing, rfl⟩⟩
  · rename_i more
    rw [if_neg more] at children
    have fits := (callParts_reads reads (s.advance.rest.length + 1) s.advance).2
    exact callParts_closes reads sound (Nat.lt_succ_self _) (parts_of_valid fits children)

theorem expectCallBody_nests (valid : (expectCallBody sub s).1.Valid) :
    Nests s (expectCallBody sub s).2 := by
  revert valid
  unfold expectCallBody
  split
  · rename_i opens
    exact callBody_nests reads sound opens
  · exact fun valid => absurd valid (missing_invalid s)

theorem functionCall_nests {name : String} (found : s.kind = .ident name)
    (opens : s.second.kind = .leftParen) (valid : (functionCall sub name s).1.Valid) :
    Nests s (functionCall sub name s).2 := by
  have more : s.rest ≠ [] := by
    obtain ⟨t, rest, next⟩ := Stream.rest_of_kind (s := s) (by simp [found])
    simp [next]
  have next : s.advance.kind = .leftParen := by
    rw [Stream.kind, Stream.current_advance more, opens]
  have body := callBody_nests reads sound next
    (valid.of_wrap.of_branch _ (List.mem_cons_of_mem _ List.mem_cons_self))
  exact .trans (.ident found) body

theorem aggregate_nests {name : String} {op : Aggregator} (found : s.kind = .ident name)
    (valid : (aggregate sub op s).1.Valid) : Nests s (aggregate sub op s).2 := by
  unfold aggregate at valid ⊢
  dsimp only at valid ⊢
  have children := valid.of_wrap.of_branch
  have early := earlyGrouping_nests (s := s.advance) fun n member =>
    children n (List.mem_append_left _ (List.mem_cons_of_mem _ member))
  have body := expectCallBody_nests reads sound
    (children _ (List.mem_append_right _ List.mem_cons_self))
  have late := lateGrouping_nests fun n member =>
    children n (List.mem_append_right _ (List.mem_cons_of_mem _ member))
  exact .trans (.ident found) (early.trans (body.trans late))

theorem identExpr_nests {name : String} (found : s.kind = .ident name)
    (valid : (identExpr sub name s).1.Valid) : Nests s (identExpr sub name s).2 := by
  revert valid
  unfold identExpr
  dsimp only
  split
  · exact aggregate_nests reads sound found
  · split
    · rename_i opens
      exact functionCall_nests reads sound found opens
    · split
      · exact fun _ => .ident found
      · exact vectorSelector_nests found

theorem primary_nests (valid : (primary sub s).1.Valid) : Nests s (primary sub s).2 := by
  revert valid
  unfold primary
  split
  · rename_i found
    exact fun _ => .plain (by rw [found]; rfl)
  · rename_i found
    exact fun _ => .plain (by rw [found]; rfl)
  · rename_i opens
    exact paren_nests sound opens
  · rename_i opens
    exact fun valid => labelMatchers_nests opens valid.of_wrap.of_wrap
  · rename_i name found
    exact identExpr_nests reads sound found
  · exact fun valid => absurd valid (missing_invalid s)

theorem operand_nests (valid : (operand sub s).1.Valid) : Nests s (operand sub s).2 := by
  revert valid
  unfold operand
  dsimp only
  split
  · rename_i isError
    exact fun valid => absurd isError valid.kind
  · intro valid
    obtain ⟨first, rest⟩ := postfixes_nests valid
    exact (primary_nests reads sound first).trans rest

theorem unary_nests (valid : (unary sub s).1.Valid) : Nests s (unary sub s).2 := by
  revert valid
  unfold unary
  split
  · rename_i sign
    intro valid
    have inner := expectExpr_nests sound (s := s.advance)
      (valid.of_wrap.of_branch _ (List.mem_cons_of_mem _ List.mem_cons_self))
    have plain : s.kind.isPlain = true := by
      rcases Bool.or_eq_true_iff.mp sign with same | same <;>
        rw [decide_eq_true_eq.mp same] <;> rfl
    exact .trans (.plain plain) inner
  · exact operand_nests reads sound

end Expressions

theorem expr_subNests (depth : Nat) : SubNests (expr depth) := by
  induction depth with
  | zero => exact fun _ s _ valid => absurd rfl valid.kind
  | succ depth sound =>
    intro least s starts valid
    obtain ⟨first, rest⟩ := binaries_nests sound valid
    exact (unary_nests (expr_subReads depth) sound first).trans rest

theorem topExpr_nests {s : Stream} (valid : ∀ n ∈ (topExpr s).1, n.Valid) :
    Nests s (topExpr s).2 := by
  revert valid
  unfold topExpr
  split
  · rename_i starts
    exact fun valid => expr_subNests maxDepth 0 s starts (valid _ List.mem_cons_self)
  · exact fun _ => .done

/-- A tree without errors is read from brackets that nest, up to the end of the input. -/
theorem query_nests {s : Stream} {size : Nat} (valid : (query s size).Valid) :
    ∃ after, Nests s after ∧ after.rest = [] := by
  unfold query at valid
  have children := valid.of_branch
  have expr := topExpr_nests (s := s) fun n member => children n (List.mem_append_left _ member)
  obtain ⟨-, ends⟩ := strays_of_valid fun n member =>
    children n (List.mem_append_right _ member)
  exact ⟨_, expr, ends.resolve_left (by simp [endsNothing])⟩

end Parser

namespace SyntaxTree

/-- Where a tree has no error, every bracket that closes closes the last one that is open, square
brackets that were never closed apart; and brackets are balanced exactly where as many close as
open. -/
theorem parse_brackets (text : Text) (valid : ∀ n ∈ (parse text).nodes, n.kind ≠ .error) :
    (∃ unclosed,
      Bracket.run Bracket.closeNearest [] ((Token.scan text).map Token.kind) = some unclosed) ∧
    (Bracket.Balanced ((Token.scan text).map Token.kind) ↔
      Bracket.openings ((Token.scan text).map Token.kind) =
        Bracket.closings ((Token.scan text).map Token.kind)) := by
  obtain ⟨ts, scanned, -, placed, parsed, -⟩ := exists_tokens text
  rw [parsed] at valid
  obtain ⟨after, nests, finished⟩ := Parser.query_nests valid
  obtain ⟨us, unclosed, leaves⟩ := nests.leaves fun t member => (placed t member).1
  have all : ts = us := by
    have rest := leaves.rest
    rwa [finished, List.append_nil] at rest
  have whole : Bracket.run Bracket.closeNearest [] ((Token.scan text).map Token.kind) =
      some unclosed := by
    rw [scanned, all, List.map_append, Bracket.run_append, leaves.run, List.append_nil]
    rfl
  exact ⟨⟨unclosed, whole⟩, Bracket.balanced_iff whole⟩

/-- A query that is still being typed: it ends in a range and in two calls, and all the brackets
before them are closed. -/
def halfTyped : Text := "sum by (l) (rate(\x7bl=\"v\"\x7d[5m]) + rate(a[5m".toList

theorem parse_brackets_halfTyped :
    (∀ n ∈ (parse halfTyped).nodes, n.kind ≠ .error) ∧
      (Bracket.Balanced ((Token.scan halfTyped).map Token.kind) ↔
        Bracket.openings ((Token.scan halfTyped).map Token.kind) =
          Bracket.closings ((Token.scan halfTyped).map Token.kind)) := by
  have valid : ∀ n ∈ (parse halfTyped).nodes, n.kind ≠ .error := by decide +kernel
  exact ⟨valid, (parse_brackets halfTyped valid).2⟩

/-- A square bracket that is not closed before a call ends, and brackets of every pair that the text
ends in, leave no error. -/
theorem parse_unclosed :
    ((∀ n ∈ (parse "rate(a[5m)".toList).nodes, n.kind ≠ .error) ∧
      ¬ Bracket.Balanced ((Token.scan "rate(a[5m)".toList).map Token.kind)) ∧
    ((∀ n ∈ (parse "(sum by (l) (a\x7bl=\"v\"".toList).nodes, n.kind ≠ .error) ∧
      ¬ Bracket.Balanced ((Token.scan "(sum by (l) (a\x7bl=\"v\"".toList).map Token.kind)) := by
  decide +kernel

end SyntaxTree

end MetricQuery
