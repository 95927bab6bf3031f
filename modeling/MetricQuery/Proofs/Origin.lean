import MetricQuery.Proofs.Extent

/-!
Where the nodes of a tree come from. A leaf other than an error stands for one token of the input.
A list in brackets, a matcher, a modifier, a parenthesis or a binary expression is what the
production of its kind makes of a stream to which reading the input leads. Whatever a production
returns ends no earlier than the last token that was read for it.
-/

set_option autoImplicit false

namespace MetricQuery

/-- Reading leads from one stream to another. -/
def Stream.LeadsTo (s after : Stream) : Prop := ∃ forest, Parser.Reads s forest after

namespace Stream.LeadsTo

variable {s middle after : Stream}

theorem refl (s : Stream) : s.LeadsTo s := ⟨[], .done⟩

theorem trans (first : s.LeadsTo middle) (next : middle.LeadsTo after) : s.LeadsTo after := by
  obtain ⟨front, first⟩ := first
  obtain ⟨back, next⟩ := next
  exact ⟨front ++ back, first.append next⟩

/-- Reading goes on to another stream. -/
theorem read {forest : List Parser.Grown} (first : s.LeadsTo middle)
    (next : Parser.Reads middle forest after) : s.LeadsTo after := first.trans ⟨forest, next⟩

theorem inOrder (leads : s.LeadsTo after) (order : s.InOrder) : after.InOrder := by
  obtain ⟨forest, read⟩ := leads
  exact read.inOrder order

theorem suffix (leads : s.LeadsTo after) : after.rest <:+ s.rest := by
  obtain ⟨forest, read⟩ := leads
  obtain ⟨ts, rest, -, -⟩ := read.consumed
  exact ⟨ts, rest.symm⟩

theorem current_mem (leads : s.LeadsTo after) (more : after.rest ≠ []) :
    after.current ∈ s.rest := by
  obtain ⟨t, rest, next⟩ := List.exists_cons_of_ne_nil more
  rw [Stream.current_cons next]
  exact leads.suffix.subset (by simp [next])

end Stream.LeadsTo

/-- Whether a leaf of a kind stands for tokens of another: a literal for strings, and anything else
for no bracket or separator. -/
def NodeKind.standsFor (kind : NodeKind) (token : Token.Kind) : Bool :=
  match kind, token with
  | .stringLiteral, .string _ _ => true
  | .stringLiteral, _ => false
  | _, token => !token.isPunctuation

theorem NodeKind.exists_string {token : Token.Kind}
    (stands : NodeKind.stringLiteral.standsFor token = true) :
    ∃ raw terminated, token = .string raw terminated := by
  cases token with
  | string raw terminated => exact ⟨raw, terminated, rfl⟩
  | _ => cases stands

/-- Whether a kind is that of a list in brackets. -/
def NodeKind.isBody : NodeKind → Bool
  | .labelMatchers | .groupingLabels | .functionCallBody => true
  | _ => false

/-- How a node of an input came about, by its kind. -/
def Node.Arises (input : Stream) (n : Node) : Prop :=
  match n.kind with
  | .query => ∃ size, n = Parser.query input size
  | .parenExpr => ∃ depth s, input.LeadsTo s ∧ s.kind = .leftParen ∧
      .wrap .expr n = (Parser.paren (Parser.expr depth) s).1
  | .binaryExpr => ∃ depth op lhs s, input.LeadsTo s ∧ s.binaryOp? = some op ∧
      .wrap .expr n = (Parser.binary (Parser.expr depth) op lhs s).1
  | .functionCallBody => ∃ depth s, input.LeadsTo s ∧ s.kind = .leftParen ∧
      n = (Parser.callBody (Parser.expr depth) s).1
  | .groupingLabels => ∃ s, input.LeadsTo s ∧ s.kind = .leftParen ∧
      n = (Parser.groupingLabels s).1
  | .labelMatchers => ∃ s, input.LeadsTo s ∧ s.kind = .leftBrace ∧ n = (Parser.labelMatchers s).1
  | .labelMatcher => ∃ s name, input.LeadsTo s ∧ s.kind = .ident name ∧
      n = (Parser.labelMatcher s).1
  | .aggregateModifier => ∃ s, input.LeadsTo s ∧ s.atGrouping = true ∧
      n = (Parser.aggregateModifier s).1
  | .binModifiers => ∃ s, input.LeadsTo s ∧ [n] = (Parser.binModifiers s).1
  | .matchOp => ∃ s op, input.LeadsTo s ∧ s.matchOp? = some op ∧
      n = .wrap .matchOp (s.leaf (.matchSymbol op)).1
  | .error | .duration => True
  | kind => kind.isLeaf = true → ∃ s, input.LeadsTo s ∧ s.rest ≠ [] ∧
      kind.standsFor s.kind = true ∧ n = (s.leaf kind).1

/-- What a production gives: a node all parts of which are accounted for, and which ends no earlier
than what was read. -/
structure Parser.Yields (input : Stream) (r : Node × Stream) : Prop where
  leads : input.LeadsTo r.2
  arises : r.1.Everywhere (Node.Arises input)
  covers : r.2.last ≤ r.1.stop

/-- What a production gives that makes any number of nodes. Whatever bounds the nodes bounds where
reading stopped, or, if there are none, where it began. -/
structure Parser.YieldsAll (input s : Stream) (r : List Node × Stream) : Prop where
  leads : input.LeadsTo r.2
  arise : ∀ n ∈ r.1, n.Everywhere (Node.Arises input)
  covers : ∀ bound, (r.1 = [] → s.last ≤ bound) → (∀ n ∈ r.1, n.stop ≤ bound) →
    r.2.last ≤ bound

theorem Node.arises_leaf {input s : Stream} {kind : NodeKind} (start : input.LeadsTo s)
    (more : s.rest ≠ []) (isLeaf : kind.isLeaf = true) (stands : kind.standsFor s.kind = true) :
    (s.leaf kind).1.Arises input := by
  unfold Arises
  rw [Stream.leaf_fst_kind]
  split
  any_goals exact trivial
  any_goals cases isLeaf
  exact fun _ => ⟨s, start, more, stands, rfl⟩

namespace Parser

variable {input s after : Stream}

theorem leaf_covers (kind : NodeKind) (more : s.rest ≠ []) :
    (s.leaf kind).2.last ≤ (s.leaf kind).1.stop := by
  obtain ⟨t, rest, next⟩ := List.exists_cons_of_ne_nil more
  simp only [Stream.leaf, Stream.advance_cons next, Stream.current_cons next, Node.leaf_stop]
  omega

theorem rest_ne_nil (more : s.kind ≠ .endOfInput) : s.rest ≠ [] := by
  intro finished
  exact more (Stream.kind_of_nil finished)

namespace Yields

/-- A node over everything that was read. -/
theorem node (kind : NodeKind) {start : Nat} {children : List Node}
    (own : (Node.branch kind start after.last children).Arises input)
    (leads : input.LeadsTo after) (arise : ∀ c ∈ children, c.Everywhere (Node.Arises input)) :
    Yields input (.branch kind start after.last children, after) := by
  refine ⟨leads, Node.everywhere_branch own arise, ?_⟩
  have wide := Node.le_branch_stop kind start after.last children
  dsimp only
  omega

/-- A node over children that were read one after another. -/
theorem cons (kind : NodeKind) {start stop : Nat} {n : Node} {ns : List Node} {middle : Stream}
    (own : (Node.branch kind start stop (n :: ns)).Arises input)
    (first : Yields input (n, middle)) (rest : YieldsAll input middle (ns, after)) :
    Yields input (.branch kind start stop (n :: ns), after) := by
  refine ⟨rest.leads, Node.everywhere_branch own ?_, ?_⟩
  · exact List.forall_mem_cons.mpr ⟨first.arises, rest.arise⟩
  · have inside : ∀ c ∈ n :: ns, c.stop ≤ (Node.branch kind start stop (n :: ns)).stop :=
      fun c child => Node.child_stop_le_branch child
    rw [List.forall_mem_cons] at inside
    exact rest.covers _ (fun _ => Nat.le_trans first.covers inside.1) inside.2

/-- A token becomes a leaf that stands for it. -/
theorem token (start : input.LeadsTo s) (kind : NodeKind) (isLeaf : kind.isLeaf = true)
    (more : s.kind ≠ .endOfInput) (valid : ∀ c, s.kind ≠ .invalid c)
    (stands : kind.standsFor s.kind = true) : Yields input (s.leaf kind) := by
  have rest := rest_ne_nil more
  exact ⟨start.read (.token 0 kind isLeaf more valid),
    Node.everywhere_leaf (Node.arises_leaf start rest isLeaf stands), leaf_covers kind rest⟩

theorem ident (start : input.LeadsTo s) (kind : NodeKind) {name : String}
    (isLeaf : kind.isLeaf = true) (found : s.kind = .ident name)
    (stands : kind.standsFor (.ident name) = true) : Yields input (s.leaf kind) :=
  token start kind isLeaf (by simp [found]) (by simp [found]) (by rwa [found])

theorem errorLeaf (start : input.LeadsTo s) (more : s.kind ≠ .endOfInput) :
    Yields input (s.leaf .error) :=
  ⟨start.read (.errorLeaf 0 more), Node.everywhere_leaf trivial,
    leaf_covers .error (rest_ne_nil more)⟩

theorem missing (order : input.InOrder) (start : input.LeadsTo s) :
    Yields input (s.missing, s) := by
  refine ⟨start, Node.everywhere_leaf trivial, ?_⟩
  have behind := (start.inOrder order).last_le
  simpa [Stream.missing] using behind

end Yields

namespace YieldsAll

theorem nil (start : input.LeadsTo s) : YieldsAll input s ([], s) :=
  ⟨start, List.forall_mem_nil _, fun _ before _ => before rfl⟩

theorem cons {n : Node} {ns : List Node} {middle : Stream} (first : Yields input (n, middle))
    (rest : YieldsAll input middle (ns, after)) : YieldsAll input s (n :: ns, after) := by
  refine ⟨rest.leads, List.forall_mem_cons.mpr ⟨first.arises, rest.arise⟩, ?_⟩
  intro bound _ below
  rw [List.forall_mem_cons] at below
  exact rest.covers bound (fun _ => Nat.le_trans first.covers below.1) below.2

theorem one {n : Node} (only : Yields input (n, after)) : YieldsAll input s ([n], after) :=
  cons only (nil only.leads)

theorem append {front back : List Node} {middle : Stream}
    (first : YieldsAll input s (front, middle)) (next : YieldsAll input middle (back, after)) :
    YieldsAll input s (front ++ back, after) := by
  refine ⟨next.leads, List.forall_mem_append.mpr ⟨first.arise, next.arise⟩, ?_⟩
  intro bound before below
  rw [List.forall_mem_append] at below
  refine next.covers bound (fun backNil => ?_) below.2
  exact first.covers bound (fun frontNil => before (by simp_all)) below.1

end YieldsAll

theorem Yields.wrap {n : Node} (inner : Yields input (n, after)) (kind : NodeKind)
    (own : (Node.wrap kind n).Arises input) : Yields input (.wrap kind n, after) :=
  cons kind own inner (.nil inner.leads)

theorem stray_yields (start : input.LeadsTo s) (more : s.rest ≠ []) : Yields input s.stray := by
  have leads := start.read (.stray 0 more)
  have covers := leaf_covers .error more
  unfold Stream.stray Stream.strayNode at leads ⊢
  split
  · rename_i name found
    have named : s.kind = .ident name := by
      simp only [Token.ident?] at found
      split at found
      · rename_i same
        cases found
        exact same
      · cases found
    exact (Yields.ident start .identifier rfl named rfl).wrap .error trivial
  · exact ⟨leads, Node.everywhere_leaf trivial, covers⟩

theorem strays_yields (start : input.LeadsTo s) (stops : Token.Kind → Bool) :
    YieldsAll input s (s.strays stops) := by
  obtain ⟨rest, finish, last⟩ := s
  induction rest generalizing last with
  | nil => exact .nil start
  | cons t rest ih =>
    cases going : stops t.kind with
    | true =>
      rw [strays_stop stops rfl going]
      exact .nil start
    | false =>
      rw [strays_cons stops rfl going]
      have first := stray_yields start (by simp)
      exact .cons first (ih t.stop first.leads)

section Lists

theorem groupingParts_arise (start : input.LeadsTo s) (steps : Nat) :
    ∀ part ∈ (groupingParts steps s).1, part.node.Everywhere (Node.Arises input) := by
  induction steps generalizing s with
  | zero => exact List.forall_mem_nil _
  | succ steps ih =>
    rw [groupingParts]
    split
    · exact List.forall_mem_nil _
    · exact List.forall_mem_nil _
    · rename_i name found
      have label := Yields.ident start .labelName rfl found rfl
      have comma := label.leads.read (.skip s.advance .comma rfl)
      have named : (Node.wrap .groupingLabel (s.leaf .labelName).1).Arises input :=
        fun isLeaf => absurd isLeaf Bool.false_ne_true
      exact List.forall_mem_cons.mpr ⟨(label.wrap .groupingLabel named).arises, ih comma⟩
    · rename_i more _
      have error := Yields.errorLeaf start more
      exact List.forall_mem_cons.mpr ⟨error.arises, ih error.leads⟩

theorem groupingLabels_yields (start : input.LeadsTo s) (opens : s.kind = .leftParen) :
    Yields input (groupingLabels s) := by
  have bracket : input.LeadsTo s.advance := start.read (.punctuation (by rw [opens]; rfl))
  have parts := groupingParts_arise bracket s.advance.rest.length
  refine .node _ ⟨s, start, opens, rfl⟩ (start.read (groupingLabels_reads 0 opens)) ?_
  exact everywhere_listChildren _ _ parts fun _ _ _ _ => nofun

theorem expectGroupingLabels_yields (order : input.InOrder) (start : input.LeadsTo s) :
    Yields input (expectGroupingLabels s) := by
  unfold expectGroupingLabels
  split
  · rename_i opens
    exact groupingLabels_yields start opens
  · exact .missing order start

theorem matcherValue_yields (order : input.InOrder) (start : input.LeadsTo s) :
    Yields input (matcherValue s) := by
  unfold matcherValue
  split
  · rename_i found
    exact .token start _ rfl (by simp [found]) (by simp [found]) (by rw [found]; rfl)
  · exact .missing order start
  · exact .missing order start
  · exact .missing order start
  · rename_i more
    exact .errorLeaf start more

theorem standsFor_of_matchOp? {op : MatchOp} (found : s.matchOp? = some op) (kind : MatchOp) :
    (NodeKind.matchSymbol kind).standsFor s.kind = true := by
  unfold Stream.matchOp? at found
  split at found <;> simp_all [NodeKind.standsFor, Token.Kind.isPunctuation]

theorem comparison_yields (order : input.InOrder) (start : input.LeadsTo s) :
    YieldsAll input s (comparison s) := by
  unfold comparison
  split
  · rename_i op found
    obtain ⟨more, valid⟩ := kind_of_matchOp? found
    have symbol := Yields.token start (.matchSymbol op) rfl more valid
      (standsFor_of_matchOp? found op)
    have value := matcherValue_yields order symbol.leads
    exact .cons (symbol.wrap .matchOp ⟨s, op, start, found, rfl⟩) (.one value)
  · split
    · exact .one (.missing order start)
    · exact .one (.missing order start)
    · exact .one (.missing order start)
    · exact .one (.missing order start)
    · rename_i more _
      have error := Yields.errorLeaf start more
      dsimp only [Stream.leaf] at error ⊢
      split
      · rename_i value
        exact .cons error (.one (.token error.leads _ rfl (by simp [value]) (by simp [value])
          (by rw [value]; rfl)))
      · exact .one error

theorem labelMatcher_yields (order : input.InOrder) (start : input.LeadsTo s) {name : String}
    (found : s.kind = .ident name) : Yields input (labelMatcher s) := by
  have label := Yields.ident start .labelName rfl found rfl
  exact .cons _ ⟨s, name, start, found, rfl⟩ label (comparison_yields order label.leads)

theorem matcherParts_arise (order : input.InOrder) (start : input.LeadsTo s) (steps : Nat) :
    ∀ part ∈ (matcherParts steps s).1, part.node.Everywhere (Node.Arises input) := by
  induction steps generalizing s with
  | zero => exact List.forall_mem_nil _
  | succ steps ih =>
    rw [matcherParts]
    split
    · exact List.forall_mem_nil _
    · exact List.forall_mem_nil _
    · rename_i name found
      have matcher := labelMatcher_yields order start found
      have comma := matcher.leads.read (.skip _ .comma rfl)
      exact List.forall_mem_cons.mpr ⟨matcher.arises, ih comma⟩
    · rename_i more _
      have error := Yields.errorLeaf start more
      exact List.forall_mem_cons.mpr ⟨error.arises, ih error.leads⟩

theorem labelMatchers_yields (order : input.InOrder) (start : input.LeadsTo s)
    (opens : s.kind = .leftBrace) : Yields input (labelMatchers s) := by
  have bracket : input.LeadsTo s.advance := start.read (.punctuation (by rw [opens]; rfl))
  have parts := matcherParts_arise order bracket s.advance.rest.length
  refine .node _ ⟨s, start, opens, rfl⟩ (start.read (labelMatchers_reads 0 opens)) ?_
  exact everywhere_listChildren _ _ parts fun _ _ _ _ => nofun

theorem vectorSelector_yields (order : input.InOrder) (start : input.LeadsTo s) {name : String}
    (found : s.kind = .ident name) : Yields input (vectorSelector s) := by
  have ident := Yields.ident start .identifier rfl found rfl
  have metric := ident.wrap .metricIdentifier nofun
  unfold vectorSelector
  dsimp only [Stream.leaf]
  split
  · rename_i opens
    have matchers := labelMatchers_yields order ident.leads opens
    exact (Yields.cons .vectorSelector nofun metric (.one matchers)).wrap .expr nofun
  · exact (Yields.cons .vectorSelector nofun metric (.nil ident.leads)).wrap .expr nofun

theorem aggregateModifier_yields (order : input.InOrder) (start : input.LeadsTo s)
    (found : s.atGrouping = true) : Yields input (aggregateModifier s) := by
  obtain ⟨name, same⟩ := Stream.kind_of_atGrouping found
  have own : (aggregateModifier s).1.Arises input := ⟨s, start, found, rfl⟩
  have keyword : ∀ kind : NodeKind, kind = .keywordBy ∨ kind = .keywordWithout →
      Yields input (s.leaf kind) := by
    rintro kind (rfl | rfl)
    · exact .ident start _ rfl same rfl
    · exact .ident start _ rfl same rfl
  have word := keyword (if s.atKeyword "by" then .keywordBy else .keywordWithout) (by
    cases s.atKeyword "by" with
    | true => exact .inl rfl
    | false => exact .inr rfl)
  exact .cons _ own word (.one (expectGroupingLabels_yields order word.leads))

/-- One of two keywords becomes a leaf. -/
theorem choice_yields (start : input.LeadsTo s) {one other : String} {x y kind : NodeKind}
    (isLeaf : x.isLeaf = true ∧ y.isLeaf = true)
    (stands : ∀ name, x.standsFor (.ident name) = true ∧ y.standsFor (.ident name) = true)
    (chosen : (if s.atKeyword one then some x else if s.atKeyword other then some y else none) =
      some kind) : Yields input (s.leaf kind) := by
  split at chosen
  · rename_i found
    obtain ⟨name, same⟩ := Stream.kind_of_atKeyword found
    cases chosen
    exact .ident start _ isLeaf.1 same (stands name).1
  · split at chosen
    · rename_i found
      obtain ⟨name, same⟩ := Stream.kind_of_atKeyword found
      cases chosen
      exact .ident start _ isLeaf.2 same (stands name).2
    · cases chosen

theorem groupClause_yields (start : input.LeadsTo s) : YieldsAll input s (groupClause s) := by
  unfold groupClause
  dsimp only
  split
  · exact .nil start
  · rename_i side chosen
    have keyword := choice_yields start ⟨rfl, rfl⟩ (fun _ => ⟨rfl, rfl⟩) chosen
    by_cases opens : s.advance.kind = .leftParen
    · simp only [Stream.leaf, opens, ↓reduceIte]
      exact .cons keyword (.one (groupingLabels_yields keyword.leads opens))
    · simp only [Stream.leaf, opens, ↓reduceIte]
      exact .one keyword

theorem matchingClause_yields (order : input.InOrder) (start : input.LeadsTo s) :
    YieldsAll input s (matchingClause s) := by
  unfold matchingClause
  dsimp only
  split
  · exact .nil start
  · rename_i matching chosen
    have keyword := choice_yields start ⟨rfl, rfl⟩ (fun _ => ⟨rfl, rfl⟩) chosen
    have labels := expectGroupingLabels_yields order keyword.leads
    exact .cons keyword (.cons labels (groupClause_yields labels.leads))

theorem boolFlag_yields (start : input.LeadsTo s) : YieldsAll input s (boolFlag s) := by
  unfold boolFlag
  split
  · rename_i found
    obtain ⟨name, same⟩ := Stream.kind_of_atKeyword found
    exact .one (Yields.ident start .keywordBool rfl same rfl)
  · exact .nil start

theorem binModifiers_yields (order : input.InOrder) (start : input.LeadsTo s) :
    YieldsAll input s (binModifiers s) := by
  have bool := boolFlag_yields start
  have both : YieldsAll input s ((boolFlag s).1 ++ (matchingClause (boolFlag s).2).1,
      (matchingClause (boolFlag s).2).2) := bool.append (matchingClause_yields order bool.leads)
  have own : ∀ n, (binModifiers s).1 = [n] → n.kind = .binModifiers → n.Arises input := by
    intro n made kind
    rw [Node.Arises, kind]
    exact ⟨s, start, made.symm⟩
  unfold binModifiers at own ⊢
  dsimp only at own ⊢
  generalize (boolFlag s).1 ++ (matchingClause (boolFlag s).2).1 = found at both own ⊢
  cases found with
  | nil => exact both
  | cons first more =>
    refine .one ⟨both.leads, Node.everywhere_branch (own _ rfl rfl) both.arise, ?_⟩
    exact both.covers _ nofun fun c child => Node.child_stop_le_branch child

theorem rangeDuration_yields (order : input.InOrder) (start : input.LeadsTo s) :
    Yields input (rangeDuration s) := by
  unfold rangeDuration
  split
  · rename_i found
    exact .token start _ rfl (by simp [found]) (by simp [found]) (by rw [found]; rfl)
  · rename_i found
    exact .errorLeaf start (by simp [found])
  · rename_i found
    exact .errorLeaf start (by simp [found])
  · exact .missing order start

theorem rangeStep_yields (start : input.LeadsTo s) : YieldsAll input s (rangeStep s) := by
  unfold rangeStep
  split
  · rename_i found
    have step := Yields.token start .duration rfl (by simp [found]) (by simp [found])
      (by rw [found]; rfl)
    exact .one step
  · rename_i found
    exact .one (Yields.errorLeaf start (by simp [found]))
  · exact .nil start

theorem range_yields (order : input.InOrder) {e : Node} (operand : Yields input (e, s))
    (opens : s.kind = .leftBracket) : Yields input (range e s) := by
  have bracket : input.LeadsTo s.advance :=
    operand.leads.read (.punctuation (by rw [opens]; rfl))
  have duration := rangeDuration_yields order bracket
  unfold range
  generalize rangeDuration s.advance = length at duration ⊢
  obtain ⟨node, after⟩ := length
  dsimp only at duration ⊢
  by_cases colon : after.kind = .colon
  · simp only [colon, ↓reduceIte]
    have step := rangeStep_yields (duration.leads.read (.punctuation (by rw [colon]; rfl)))
    have close := step.leads.read (.skip _ .rightBracket rfl)
    refine (Yields.node .subqueryExpr nofun close ?_).wrap .expr nofun
    exact List.forall_mem_cons.mpr
      ⟨operand.arises, List.forall_mem_cons.mpr ⟨duration.arises, step.arise⟩⟩
  · simp only [colon, ↓reduceIte]
    have close := duration.leads.read (.skip _ .rightBracket rfl)
    refine (Yields.node .matrixSelector nofun close ?_).wrap .expr nofun
    exact List.forall_mem_cons.mpr
      ⟨operand.arises, List.forall_mem_cons.mpr ⟨duration.arises, List.forall_mem_nil _⟩⟩

theorem offsetDuration_yields (order : input.InOrder) (start : input.LeadsTo s) :
    Yields input (offsetDuration s) := by
  cases signed : atSigned s with
  | true =>
    obtain ⟨sign, length, rest, next, isSign, isLength⟩ := rest_of_atSigned signed
    have minus : s.kind = .minus := by rw [Stream.kind_of_rest next, isSign]
    have middle := start.read (.token 0 .unaryOp rfl (by simp [minus]) (by simp [minus]))
    rw [Stream.advance_cons next] at middle
    have finish := middle.read (.leaf 0 .error rfl (by simp) fun _ _ => rfl)
    rw [offsetDuration_signed next isSign isLength]
    exact ⟨finish, Node.everywhere_leaf trivial, Nat.le_max_left _ _⟩
  | false =>
    have leads := start.read (offsetDuration_reads 0 signed).1
    unfold atSigned at signed
    unfold offsetDuration at leads ⊢
    simp only [signed, Bool.false_eq_true, ↓reduceIte] at leads ⊢
    split
    · rename_i found
      exact .token start .duration rfl (by simp [found]) (by simp [found])
        (by rw [found]; rfl)
    · rename_i found
      exact .errorLeaf start (by simp [found])
    · exact .missing order start

theorem offset_yields (order : input.InOrder) {e : Node} (operand : Yields input (e, s))
    (found : s.atKeyword "offset" = true) : Yields input (offset e s) := by
  obtain ⟨name, same⟩ := Stream.kind_of_atKeyword found
  have keyword := Yields.ident operand.leads .keywordOffset rfl same rfl
  have duration := offsetDuration_yields order keyword.leads
  refine (Yields.node .offsetExpr nofun duration.leads ?_).wrap .expr nofun
  simp only [List.mem_cons, List.not_mem_nil, or_false, forall_eq_or_imp, forall_eq]
  exact ⟨operand.arises, keyword.arises, duration.arises⟩

theorem postfixes_yields (order : input.InOrder) (steps : Nat) {e : Node}
    (operand : Yields input (e, s)) : Yields input (postfixes steps e s) := by
  induction steps generalizing e s with
  | zero => exact operand
  | succ steps ih =>
    rw [postfixes]
    split
    · rename_i opens
      exact ih (range_yields order operand opens)
    · split
      · rename_i found
        exact ih (offset_yields order operand found)
      · exact operand

end Lists

/-- Every expression `depth` levels above the deepest is accounted for. -/
def SubYields (input : Stream) (depth : Nat) : Prop :=
  ∀ least s, input.LeadsTo s → s.startsExpr = true → Yields input (expr depth least s)

section Expressions

variable {depth : Nat} (order : input.InOrder) (sound : SubYields input depth)

include order sound

theorem expectExpr_yields (least : Nat) (start : input.LeadsTo s) :
    Yields input (expectExpr (expr depth) least s) := by
  unfold expectExpr
  split
  · rename_i starts
    exact sound least s start starts
  · exact .missing order start

theorem argument_arises (start : input.LeadsTo s) :
    (argument (expr depth) s).1.node.Everywhere (Node.Arises input) := by
  unfold argument
  split
  · rename_i starts
    exact (sound 0 s start starts).arises
  · exact (Yields.missing order start).arises

theorem callParts_arise (start : input.LeadsTo s) (steps : Nat) :
    ∀ part ∈ (callParts (expr depth) steps s).1, part.node.Everywhere (Node.Arises input) := by
  induction steps generalizing s with
  | zero => exact List.forall_mem_nil _
  | succ steps ih =>
    have first := argument_arises order sound start
    have leads := start.read (argument_reads (expr_subReads depth) s).1
    rw [callParts]
    generalize argument (expr depth) s = taken at first leads ⊢
    obtain ⟨argument, middle⟩ := taken
    have strays := strays_yields leads endsArgument
    dsimp only at first ⊢
    generalize middle.strays endsArgument = skipped at strays ⊢
    obtain ⟨errors, after⟩ := skipped
    have parts : ∀ part ∈ argument :: errors.map Part.stray,
        part.node.Everywhere (Node.Arises input) := by
      refine List.forall_mem_cons.mpr ⟨first, ?_⟩
      intro part member
      obtain ⟨n, among, rfl⟩ := List.mem_map.mp member
      exact strays.arise n among
    dsimp only
    split
    · rename_i comma
      have more := ih (strays.leads.read (.punctuation (by rw [comma]; rfl)))
      exact List.forall_mem_append.mpr ⟨parts, more⟩
    · exact parts
    · exact parts

theorem callBody_yields (start : input.LeadsTo s) (opens : s.kind = .leftParen) :
    Yields input (callBody (expr depth) s) := by
  have bracket : input.LeadsTo s.advance := start.read (.punctuation (by rw [opens]; rfl))
  have parts : ∀ part ∈ (arguments (expr depth) s.advance).1,
      part.node.Everywhere (Node.Arises input) := by
    unfold arguments
    split
    · exact List.forall_mem_nil _
    · exact callParts_arise order sound bracket _
  refine .node _ ⟨depth, s, start, opens, rfl⟩
    (start.read (callBody_reads (expr_subReads depth) opens)) ?_
  exact everywhere_listChildren _ _ parts fun _ _ _ _ => nofun

theorem functionCall_yields (start : input.LeadsTo s) {name : String}
    (found : s.kind = .ident name) (opens : s.advance.kind = .leftParen) (called : String) :
    Yields input (functionCall (expr depth) called s) := by
  have call : ∀ kind : NodeKind, kind.isLeaf = true → kind.standsFor (.ident name) = true →
      Yields input (.wrap .expr (.branch .functionCall (s.leaf kind).1.start (s.leaf kind).1.stop
        [.wrap .functionIdentifier (s.leaf kind).1, (callBody (expr depth) s.advance).1]),
        (callBody (expr depth) s.advance).2) := by
    intro kind isLeaf stands
    have ident := Yields.ident start kind isLeaf found stands
    have body := callBody_yields order sound ident.leads opens
    exact (Yields.cons .functionCall nofun (ident.wrap .functionIdentifier nofun)
      (.one body)).wrap .expr nofun
  unfold functionCall
  cases QueryFunction.ofName? called with
  | some f => exact call (.function f) rfl rfl
  | none => exact call .identifier rfl rfl

omit sound in
theorem earlyGrouping_yields (start : input.LeadsTo s) :
    YieldsAll input s (earlyGrouping s) := by
  unfold earlyGrouping
  split
  · rename_i found
    exact .one (aggregateModifier_yields order start found)
  · exact .nil start

omit sound in
theorem lateGrouping_yields (early : Bool) (start : input.LeadsTo s) :
    YieldsAll input s (lateGrouping early s) := by
  unfold lateGrouping
  split
  · rename_i found
    exact .one (aggregateModifier_yields order start (Bool.and_eq_true_iff.mp found).2)
  · split
    · rename_i found
      obtain ⟨name, same⟩ := Stream.kind_of_atStrayIdent found
      exact .one (stray_yields start (rest_ne_nil (by simp [same])))
    · exact .nil start

theorem expectCallBody_yields (start : input.LeadsTo s) :
    Yields input (expectCallBody (expr depth) s) := by
  unfold expectCallBody
  split
  · rename_i opens
    exact callBody_yields order sound start opens
  · exact .missing order start

theorem aggregate_yields (start : input.LeadsTo s) {name : String} (found : s.kind = .ident name)
    (op : Aggregator) : Yields input (aggregate (expr depth) op s) := by
  have symbol := Yields.ident start (.aggregator op) rfl found rfl
  have before := earlyGrouping_yields order symbol.leads
  have body := expectCallBody_yields order sound before.leads
  have after := lateGrouping_yields order (s.leaf (.aggregator op)).2.atGrouping body.leads
  exact (Yields.cons .aggregateExpr nofun (symbol.wrap .aggregateOp nofun)
    (before.append (.cons body after))).wrap .expr nofun

theorem paren_yields (start : input.LeadsTo s) (opens : s.kind = .leftParen) :
    Yields input (paren (expr depth) s) := by
  have bracket : input.LeadsTo s.advance := start.read (.punctuation (by rw [opens]; rfl))
  have inner := expectExpr_yields order sound 0 bracket
  have strays := strays_yields inner.leads closesParen
  have close := strays.leads.read (.skip _ .rightParen rfl)
  exact (Yields.node .parenExpr ⟨depth, s, start, opens, rfl⟩ close
    (List.forall_mem_cons.mpr ⟨inner.arises, strays.arise⟩)).wrap .expr nofun

theorem identExpr_yields (start : input.LeadsTo s) {name : String} (found : s.kind = .ident name) :
    Yields input (identExpr (expr depth) name s) := by
  have second : s.advance.kind = s.second.kind := by
    rw [Stream.kind, Stream.current_advance (rest_ne_nil (by simp [found]))]
  unfold identExpr
  dsimp only
  split
  · rename_i op _
    exact aggregate_yields order sound start found op
  · split
    · rename_i opens
      exact functionCall_yields order sound start found (second.trans opens) name
    · split
      · have literal := Yields.ident start .numberLiteral rfl found rfl
        exact literal.wrap .expr fun isLeaf => absurd isLeaf Bool.false_ne_true
      · exact vectorSelector_yields order start found

theorem primary_yields (start : input.LeadsTo s) : Yields input (primary (expr depth) s) := by
  unfold primary
  split
  · rename_i found
    exact (Yields.token start .numberLiteral rfl (by simp [found]) (by simp [found])
      (by rw [found]; rfl)).wrap .expr nofun
  · rename_i found
    exact (Yields.token start .stringLiteral rfl (by simp [found]) (by simp [found])
      (by rw [found]; rfl)).wrap .expr nofun
  · rename_i opens
    exact paren_yields order sound start opens
  · rename_i opens
    exact ((labelMatchers_yields order start opens).wrap .vectorSelector nofun).wrap .expr nofun
  · rename_i name found
    exact identExpr_yields order sound start found
  · exact .missing order start

theorem operand_yields (start : input.LeadsTo s) : Yields input (operand (expr depth) s) := by
  have first := primary_yields order sound start
  unfold operand
  dsimp only
  split
  · exact first
  · exact postfixes_yields order _ first

theorem unary_yields (start : input.LeadsTo s) : Yields input (unary (expr depth) s) := by
  unfold unary
  split
  · rename_i signs
    have valid : s.kind = .plus ∨ s.kind = .minus := by simpa using signs
    have sign : Yields input (s.leaf .unaryOp) := by
      rcases valid with same | same
      · exact .token start _ rfl (by simp [same]) (by simp [same]) (by rw [same]; rfl)
      · exact .token start _ rfl (by simp [same]) (by simp [same]) (by rw [same]; rfl)
    have inner := expectExpr_yields order sound BinaryOp.pow.precedence sign.leads
    exact (Yields.cons .unaryExpr nofun sign (.one inner)).wrap .expr nofun
  · exact operand_yields order sound start

omit order sound in
theorem standsFor_of_binaryOp? {op : BinaryOp} (found : s.binaryOp? = some op) (kind : BinaryOp) :
    (NodeKind.operator kind).standsFor s.kind = true := by
  unfold Stream.binaryOp? at found
  split at found <;> simp_all [NodeKind.standsFor, Token.Kind.isPunctuation]

theorem binary_yields {op : BinaryOp} {lhs : Node} (operand : Yields input (lhs, s))
    (found : s.binaryOp? = some op) : Yields input (binary (expr depth) op lhs s) := by
  have symbol := Yields.token operand.leads (.operator op) rfl
    (Stream.kind_of_binaryOp? found) (Stream.valid_of_binaryOp? found)
    (standsFor_of_binaryOp? found op)
  have modifiers := binModifiers_yields order symbol.leads
  have right := expectExpr_yields order sound op.rightPrecedence modifiers.leads
  exact (Yields.cons .binaryExpr ⟨depth, op, lhs, s, operand.leads, found, rfl⟩ operand
    (.cons symbol (modifiers.append (.one right)))).wrap .expr nofun

theorem binaries_yields (least steps : Nat) {lhs : Node} (operand : Yields input (lhs, s)) :
    Yields input (binaries (expr depth) least steps lhs s) := by
  induction steps generalizing lhs s with
  | zero => exact operand
  | succ steps ih =>
    rw [binaries]
    split
    · exact operand
    · rename_i op found
      split
      · exact operand
      · exact ih (binary_yields order sound operand found)

end Expressions

theorem expr_subYields (order : input.InOrder) (depth : Nat) : SubYields input depth := by
  induction depth with
  | zero =>
    intro least s start starts
    refine ⟨start.read (.swallow starts), Node.everywhere_leaf trivial, ?_⟩
    exact Nat.le_max_left _ _
  | succ depth sound =>
    intro least s start starts
    exact binaries_yields order sound least _ (unary_yields order sound start)

theorem topExpr_yields (order : input.InOrder) (start : input.LeadsTo s) :
    YieldsAll input s (topExpr s) := by
  unfold topExpr
  split
  · rename_i starts
    exact .one (expr_subYields order maxDepth 0 s start starts)
  · exact .nil start

/-- Every node of a query is accounted for. -/
theorem query_arises (order : input.InOrder) (size : Nat) :
    (query input size).Everywhere (Node.Arises input) := by
  have exprs := topExpr_yields order (.refl input)
  have strays := strays_yields exprs.leads endsNothing
  refine Node.everywhere_branch ⟨size, rfl⟩ ?_
  exact List.forall_mem_append.mpr ⟨exprs.arise, strays.arise⟩

end Parser

/-- Where a node that starts no later than what was read for it starts. -/
theorem Parser.start_of_reads {s after : Stream} {depth stop : Nat} {kind : NodeKind}
    {children : List Node}
    (read : Reads s [(depth, .branch kind s.current.start stop children)] after)
    (order : s.InOrder) :
    (Node.branch kind s.current.start stop children).start = s.current.start := by
  have above := Node.branch_start_le kind s.current.start stop children
  have below := ((read.laid order).bounds _ List.mem_cons_self).1
  exact Nat.le_antisymm above below

/-- A list in brackets starts with the opening one. -/
theorem Node.Arises.opens {input : Stream} {n : Node} (arises : n.Arises input)
    (order : input.InOrder) (body : n.kind.isBody = true) :
    ∃ s, input.LeadsTo s ∧ (s.kind = .leftParen ∨ s.kind = .leftBrace) ∧
      n.start = s.current.start := by
  unfold NodeKind.isBody at body
  unfold Arises at arises
  split at body
  · rename_i kind
    rw [kind] at arises
    obtain ⟨s, leads, opens, rfl⟩ := arises
    exact ⟨s, leads, .inr opens,
      Parser.start_of_reads (Parser.labelMatchers_reads 0 opens) (leads.inOrder order)⟩
  · rename_i kind
    rw [kind] at arises
    obtain ⟨s, leads, opens, rfl⟩ := arises
    exact ⟨s, leads, .inl opens,
      Parser.start_of_reads (Parser.groupingLabels_reads 0 opens) (leads.inOrder order)⟩
  · rename_i kind
    rw [kind] at arises
    obtain ⟨depth, s, leads, opens, rfl⟩ := arises
    exact ⟨s, leads, .inl opens, Parser.start_of_reads
      (Parser.callBody_reads (Parser.expr_subReads depth) opens) (leads.inOrder order)⟩
  · cases body

/-- A leaf other than an error or a duration stands for one token. -/
theorem Node.Arises.token {input : Stream} {n : Node} (arises : n.Arises input)
    (isLeaf : n.kind.isLeaf = true) (notError : n.kind ≠ .error)
    (notDuration : n.kind ≠ .duration) :
    ∃ s, input.LeadsTo s ∧ s.rest ≠ [] ∧ n.kind.standsFor s.kind = true ∧
      n = (s.leaf n.kind).1 := by
  unfold Arises at arises
  generalize found : n.kind = kind at arises isLeaf notError notDuration ⊢
  split at arises
  any_goals cases isLeaf
  · exact absurd rfl notError
  · exact absurd rfl notDuration
  · exact arises isLeaf

namespace Stream

/-- The stream of a whole text. -/
def ofText (text : Text) : Stream := ofTokens (Token.scan text) (Text.size text)

variable (text : Text)

/-- The tokens of a text, in order and on its boundaries. -/
theorem ofText_tokens :
    Token.scan text = (ofText text).rest ++ [.finish (Text.size text)] ∧
      Token.OnBoundaries text (ofText text).rest ∧ (ofText text).InOrder := by
  obtain ⟨ts, scanned, ordered, placed⟩ := Token.scan_tokens text
  have whole := ofTokens_take (fun t member => (placed t member).1) (Text.size text)
    (ts.length + 1)
  rw [List.take_of_length_le (by simp), List.take_of_length_le (by simp), ← scanned] at whole
  rw [ofText, whole]
  exact ⟨scanned, placed, ordered.inOrder placed⟩

theorem ofText_inOrder : (ofText text).InOrder := (ofText_tokens text).2.2

theorem mem_scan_of_ofText {t : Token} (member : t ∈ (ofText text).rest) :
    t ∈ Token.scan text := by
  rw [(ofText_tokens text).1]
  exact List.mem_append_left _ member

theorem mem_ofText_of_scan {t : Token} (member : t ∈ Token.scan text)
    (inner : t.kind ≠ .endOfInput) : t ∈ (ofText text).rest := by
  rw [(ofText_tokens text).1, List.mem_append, List.mem_singleton] at member
  refine member.resolve_right ?_
  rintro rfl
  exact inner rfl

end Stream

/-- Every node of the tree of a text is accounted for. -/
theorem SyntaxTree.parse_arises (text : Text) :
    ∀ n ∈ (parse text).nodes, n.Arises (.ofText text) :=
  Parser.query_arises (Stream.ofText_inOrder text) (Text.size text)

end MetricQuery
