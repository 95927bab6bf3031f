import MetricQuery.Proofs.Brackets
import MetricQuery.Proofs.CheckReach
import MetricQuery.Proofs.Coverage
import MetricQuery.Proofs.EditRange
import MetricQuery.Proofs.Layout

/-!
When a completion replaces a bracket. It does so right behind an empty pair of brackets, in a gap
between the modifiers of an operator when labels stand before the gap, and on a bracket that fits
nowhere. Everywhere else what is replaced holds no bracket.
-/

set_option autoImplicit false

namespace MetricQuery

/-- Some bracket of a text stands, at least in part, in the bytes `[start, stop)`. -/
def Text.BracketWithin (text : Text) (start stop : Nat) : Prop :=
  ∃ t ∈ Token.scan text, t.kind.isPlain = false ∧ max start t.start < min stop t.stop

theorem Text.BracketWithin.exists_mem {text : Text} {start stop : Nat}
    (within : Text.BracketWithin text start stop) :
    ∃ t ∈ (Stream.ofText text).rest, t.kind.isPlain = false ∧
      max start t.start < min stop t.stop := by
  obtain ⟨t, member, bracket, overlap⟩ := within
  refine ⟨t, Stream.mem_ofText_of_scan text member ?_, bracket, overlap⟩
  intro ended
  rw [ended] at bracket
  cases bracket

namespace Token

theorem Apart.eq_of_overlap {ts : List Token} (apart : Apart ts) {t u : Token} (left : t ∈ ts)
    (right : u ∈ ts) (before : t.start < u.stop) (after : u.start < t.stop) : t = u := by
  obtain ⟨i, hi, rfl⟩ := List.getElem_of_mem left
  obtain ⟨j, hj, rfl⟩ := List.getElem_of_mem right
  have behind := List.pairwise_iff_getElem.mp apart.behind
  rcases Nat.lt_trichotomy i j with lower | same | upper
  · have gap := behind i j hi hj lower
    omega
  · simp only [same]
  · have gap := behind j i hj hi upper
    omega

theorem isPlain_of_isPunctuation {kind : Kind} (loud : kind.isPunctuation = false) :
    kind.isPlain = true := by
  cases kind with
  | leftParen | rightParen | leftBrace | rightBrace | leftBracket | rightBracket => cases loud
  | _ => rfl

/-- A bracket takes one byte. -/
theorem stop_of_bracket {text : Text} {t : Token} (member : t ∈ (Stream.ofText text).rest)
    (bracket : t.kind.isPlain = false) : t.stop = t.start + 1 := by
  obtain ⟨inner, first, last⟩ := (Stream.ofText_tokens text).2.1 t member
  have wide := ((Stream.ofText_inOrder text).ordered.start_le t member).2
  obtain ⟨middle, found, size⟩ := Text.exists_slice (Nat.le_of_lt wide) first last
  have spelled := scan_reads text t (Stream.mem_scan_of_ofText text member) inner
  cases found.symm.trans spelled
  have narrow : Text.size t.kind.text.toList = 1 := by
    generalize t.kind = kind at bracket
    cases kind with
    | leftParen | rightParen | leftBrace | rightBrace | leftBracket | rightBracket => rfl
    | _ => cases bracket
  omega

end Token

/-- No leaf stands for a bracket, errors apart. -/
theorem NodeKind.isPlain_of_standsFor {kind : NodeKind} {token : Token.Kind}
    (stands : kind.standsFor token = true) : token.isPlain = true := by
  unfold standsFor at stands
  split at stands
  · rfl
  · cases stands
  · exact Token.isPlain_of_isPunctuation (by simpa using stands)

theorem Stream.last_advance {s : Stream} (more : s.rest ≠ []) :
    s.advance.last = s.current.stop := by
  obtain ⟨t, rest, next⟩ := List.exists_cons_of_ne_nil more
  rw [advance_cons next, current_cons next]

/-- A token ends before the next one starts. -/
theorem Stream.InOrder.gap {s : Stream} (order : s.InOrder) (more : s.rest ≠ []) :
    s.current.stop ≤ s.advance.current.start := by
  have behind := order.advance.last_le
  rwa [last_advance more] at behind

namespace Stream.LeadsTo

variable {s after : Stream}

/-- A token is left to read or was read already. -/
theorem mem_or_behind (leads : s.LeadsTo after) (order : s.InOrder) {t : Token}
    (member : t ∈ s.rest) : t ∈ after.rest ∨ t.stop ≤ after.current.start := by
  have behind := (leads.inOrder order).last_le
  obtain ⟨forest, read⟩ := leads
  obtain ⟨ts, rest, -, last⟩ := read.consumed
  rw [rest, List.mem_append] at member
  refine member.symm.imp_right fun early => ?_
  have part : ts.Sublist s.rest := by simp [rest]
  have apart := order.ordered.apart.sublist part
  have some : ts ≠ [] := List.ne_nil_of_mem early
  have bounds := apart.bounds (List.head?_eq_some_head some) (List.getLast?_eq_some_getLast some)
  have stops := (bounds t early).2
  rw [List.getLast?_eq_some_getLast some, Option.map_some, Option.getD_some] at last
  omega

/-- Of two tokens in a row, the second is the only one that overlaps what is behind the first. -/
theorem eq_second (leads : s.LeadsTo after) (order : s.InOrder) (more : after.advance.rest ≠ [])
    {t : Token} (member : t ∈ s.rest) (behind : after.current.stop < t.stop)
    (before : t.start < after.advance.current.stop) : t = after.advance.current := by
  have here := leads.inOrder order
  obtain ⟨u, rest, next⟩ := List.exists_cons_of_ne_nil more
  have own := Stream.advance_cons next
  rw [Stream.rest_advance] at next
  have first : after.rest = after.current :: u :: rest := by
    cases now : after.rest with
    | nil => simp [now] at next
    | cons v later =>
      rw [Stream.current_cons now]
      simpa [now] using next
  rw [Stream.current_cons (s := after.advance) (by rw [Stream.rest_advance, next])] at before ⊢
  rcases leads.mem_or_behind order member with left | early
  · rw [first] at left
    rcases List.mem_cons.mp left with rfl | left
    · omega
    · refine (List.mem_cons.mp left).resolve_right fun later => ?_
      have bounds := (here.advance.advance.bounds (t := t) (by rw [own]; exact later)).1
      have reached := here.advance.advance.last_le
      rw [own] at bounds reached
      dsimp only at bounds reached
      omega
  · have wide := here.current_lt (by simp [first])
    omega

end Stream.LeadsTo

namespace Parser

variable {input s : Stream}

section Bare

theorem listChildren_eq_nil {list : NodeKind} {parts : List Part}
    (bare : listChildren list parts = []) : parts = [] := by
  have none : ∀ n, n ∉ listChildren list parts := by simp [bare]
  cases parts with
  | nil => rfl
  | cons part parts =>
    cases part with
    | stray n => exact absurd (mem_listChildren.mpr (.inr List.mem_cons_self)) (none n)
    | item n =>
      cases found : chain list ((Part.item n :: parts).filterMap Part.item?) with
      | none => cases chain_eq_none found
      | some m => exact absurd (mem_listChildren.mpr (.inl found)) (none m)

theorem groupingParts_eq_nil {steps : Nat} (bare : (groupingParts steps s).1 = []) :
    (groupingParts steps s).2 = s ∨
      s.kind = .rightParen ∧ (groupingParts steps s).2 = s.advance := by
  cases steps with
  | zero => exact .inl rfl
  | succ steps =>
    rw [groupingParts] at bare ⊢
    split at bare
    · rename_i close
      simp [close]
    · rename_i ended
      simp [ended]
    · cases bare
    · cases bare

theorem matcherParts_eq_nil {steps : Nat} (bare : (matcherParts steps s).1 = []) :
    (matcherParts steps s).2 = s ∨
      s.kind = .rightBrace ∧ (matcherParts steps s).2 = s.advance := by
  cases steps with
  | zero => exact .inl rfl
  | succ steps =>
    rw [matcherParts] at bare ⊢
    split at bare
    · rename_i close
      simp [close]
    · rename_i ended
      simp [ended]
    · cases bare
    · cases bare

theorem arguments_eq_nil {sub : Sub} (bare : (arguments sub s).1 = []) :
    s.kind = .rightParen ∧ (arguments sub s).2 = s.advance := by
  unfold arguments at bare ⊢
  split
  · rename_i close
    exact ⟨close, rfl⟩
  · rename_i other
    rw [if_neg other, callParts] at bare
    dsimp only at bare
    split at bare
    · simp at bare
    · simp at bare
    · simp at bare

end Bare

end Parser

theorem Node.branch_childless {kind : NodeKind} {start stop : Nat} {children : List Node}
    (childless : children = []) :
    (branch kind start stop children).start = start ∧
      (branch kind start stop children).stop = max stop start := by
  subst childless
  exact ⟨rfl, rfl⟩

/-- A body without children consists of its brackets, or of the opening one alone. -/
theorem Node.Arises.bare {input : Stream} {n : Node} (arises : n.Arises input)
    (body : n.kind.isBody = true) (childless : n.children = []) :
    ∃ s after, input.LeadsTo s ∧ (s.kind = .leftParen ∨ s.kind = .leftBrace) ∧
      n.start = s.current.start ∧ n.stop = max after.last s.current.start ∧
      (after = s.advance ∨
        (s.advance.kind = .rightParen ∨ s.advance.kind = .rightBrace) ∧
          after = s.advance.advance) := by
  unfold NodeKind.isBody at body
  unfold Arises at arises
  split at body
  · rename_i kind
    rw [kind] at arises
    obtain ⟨s, leads, opens, rfl⟩ := arises
    obtain ⟨start, stop⟩ := branch_childless childless
    refine ⟨s, _, leads, .inr opens, start, stop, ?_⟩
    have ends := Parser.matcherParts_eq_nil (Parser.listChildren_eq_nil childless)
    exact ends.imp_right fun close => ⟨.inr close.1, close.2⟩
  · rename_i kind
    rw [kind] at arises
    obtain ⟨s, leads, opens, rfl⟩ := arises
    obtain ⟨start, stop⟩ := branch_childless childless
    refine ⟨s, _, leads, .inl opens, start, stop, ?_⟩
    have ends := Parser.groupingParts_eq_nil (Parser.listChildren_eq_nil childless)
    exact ends.imp_right fun close => ⟨.inl close.1, close.2⟩
  · rename_i kind
    rw [kind] at arises
    obtain ⟨depth, s, leads, opens, rfl⟩ := arises
    obtain ⟨start, stop⟩ := branch_childless childless
    refine ⟨s, _, leads, .inl opens, start, stop, ?_⟩
    have close := Parser.arguments_eq_nil (Parser.listChildren_eq_nil childless)
    exact .inr ⟨.inl close.1, close.2⟩
  · cases body

namespace Parser

variable {input s after : Stream}

section Modifiers

/-- A bracket among what was read stands in a list of labels or behind the start of one. -/
def LabelsHold (s : Stream) (r : List Node × Stream) : Prop :=
  ∀ t ∈ s.rest, t.kind.isPlain = false →
    (∃ l ∈ r.1, l.kind = .groupingLabels ∧ l.start ≤ t.start) ∨ t ∈ r.2.rest

theorem LabelsHold.append {middle : Stream} {front back : List Node}
    (first : LabelsHold s (front, middle)) (next : LabelsHold middle (back, after)) :
    LabelsHold s (front ++ back, after) := by
  intro t member bracket
  rcases first t member bracket with ⟨l, among, holds⟩ | left
  · exact .inl ⟨l, List.mem_append_left _ among, holds⟩
  · rcases next t left bracket with ⟨l, among, holds⟩ | left
    · exact .inl ⟨l, List.mem_append_right _ among, holds⟩
    · exact .inr left

theorem LabelsHold.nil (s : Stream) : LabelsHold s ([], s) := fun _ member _ => .inr member

theorem LabelsHold.word {name : String} (kind : NodeKind) (found : s.kind = .ident name) :
    LabelsHold s ([(s.leaf kind).1], s.advance) := by
  intro t member bracket
  obtain ⟨u, rest, next⟩ := List.exists_cons_of_ne_nil (List.ne_nil_of_mem member)
  rw [next] at member
  rcases List.mem_cons.mp member with rfl | later
  · rw [← Stream.kind_of_rest next, found] at bracket
    cases bracket
  · right
    rwa [Stream.rest_advance, next]

theorem kind_of_choice {one other : String} {x y kind : NodeKind}
    (chosen : (if s.atKeyword one then some x else if s.atKeyword other then some y else none) =
      some kind) : ∃ name, s.kind = .ident name := by
  split at chosen
  · rename_i found
    exact Stream.kind_of_atKeyword found
  · split at chosen
    · rename_i found
      exact Stream.kind_of_atKeyword found
    · cases chosen

theorem groupingLabels_start (order : s.InOrder) (opens : s.kind = .leftParen) :
    (groupingLabels s).1.start = s.current.start :=
  start_of_reads (groupingLabels_reads 0 opens) order

theorem groupingLabels_labelsHold (order : s.InOrder) (opens : s.kind = .leftParen) :
    LabelsHold s ([(groupingLabels s).1], (groupingLabels s).2) := by
  intro t member _
  refine .inl ⟨_, List.mem_singleton_self _, rfl, ?_⟩
  rw [groupingLabels_start order opens]
  exact (order.bounds member).1

theorem expectGroupingLabels_labelsHold (order : s.InOrder) :
    LabelsHold s ([(expectGroupingLabels s).1], (expectGroupingLabels s).2) := by
  unfold expectGroupingLabels
  split
  · rename_i opens
    exact groupingLabels_labelsHold order opens
  · exact fun _ member _ => .inr member

theorem groupClause_labelsHold (order : s.InOrder) : LabelsHold s (groupClause s) := by
  unfold groupClause
  dsimp only
  split
  · exact .nil s
  · rename_i side chosen
    obtain ⟨name, found⟩ := kind_of_choice chosen
    have keyword := LabelsHold.word side found
    by_cases opens : s.advance.kind = .leftParen
    · simp only [Stream.leaf, opens, ↓reduceIte]
      exact keyword.append (groupingLabels_labelsHold order.advance opens)
    · simp only [Stream.leaf, opens, ↓reduceIte]
      exact keyword

theorem matchingClause_labelsHold (order : s.InOrder) : LabelsHold s (matchingClause s) := by
  unfold matchingClause
  dsimp only
  split
  · exact .nil s
  · rename_i matching chosen
    obtain ⟨name, found⟩ := kind_of_choice chosen
    have later := (expectGroupingLabels_reads 0 s.advance).inOrder order.advance
    have keyword := LabelsHold.word matching found
    have labels := expectGroupingLabels_labelsHold order.advance
    exact keyword.append (labels.append (groupClause_labelsHold later))

theorem binModifiers_labelsHold (order : s.InOrder) {n : Node}
    (made : [n] = (binModifiers s).1) : LabelsHold s (n.children, (binModifiers s).2) := by
  have later := (boolFlag_reads 0 s).1.inOrder order
  have bool : LabelsHold s ((boolFlag s).1, (boolFlag s).2) := by
    unfold boolFlag
    split
    · rename_i found
      obtain ⟨name, same⟩ := Stream.kind_of_atKeyword found
      exact .word .keywordBool same
    · exact .nil s
  have both : LabelsHold s ((boolFlag s).1 ++ (matchingClause (boolFlag s).2).1,
      (matchingClause (boolFlag s).2).2) := bool.append (matchingClause_labelsHold later)
  unfold binModifiers at made ⊢
  dsimp only at made ⊢
  generalize (boolFlag s).1 ++ (matchingClause (boolFlag s).2).1 = found at both made ⊢
  cases found with
  | nil => cases made
  | cons first more =>
    cases made
    exact both

/-- What stands between the modifiers of an operator holds no bracket, labels apart. -/
theorem binModifiers_bracket (order : s.InOrder) {n : Node} (made : [n] = (binModifiers s).1)
    {t : Token} (member : t ∈ s.rest) (bracket : t.kind.isPlain = false)
    (inside : t.start < n.stop) :
    ∃ l ∈ n.children, l.kind = .groupingLabels ∧ l.start ≤ t.start := by
  refine (binModifiers_labelsHold order made t member bracket).resolve_right fun left => ?_
  have read := (binModifiers_reads 0 s).1
  rw [← made] at read
  have laid := (read.laid order).bounds n (by simp)
  have later := ((read.inOrder order).bounds left).1
  omega

theorem expectGroupingLabels_start (order : s.InOrder) :
    (expectGroupingLabels s).1.start = s.current.start := by
  unfold expectGroupingLabels
  split
  · rename_i opens
    exact groupingLabels_start order opens
  · rfl

/-- A bracket behind `by` or `without` stands behind the start of the labels, which come last. -/
theorem aggregateModifier_bracket (order : s.InOrder) (found : s.atGrouping = true) {t : Token}
    (member : t ∈ s.rest) (bracket : t.kind.isPlain = false) :
    ∃ l ∈ (aggregateModifier s).1.children, l.start ≤ t.start ∧
      (aggregateModifier s).1.stop ≤ max l.start l.stop := by
  obtain ⟨name, same⟩ := Stream.kind_of_atGrouping found
  have labels := expectGroupingLabels_start order.advance
  have behind : t ∈ s.advance.rest :=
    (LabelsHold.word .keywordBy same t member bracket).resolve_left (by simp)
  have last : (expectGroupingLabels s.advance).1 ∈ (aggregateModifier s).1.children :=
    List.mem_cons_of_mem _ List.mem_cons_self
  refine ⟨_, last, ?_, ?_⟩
  · rw [labels]
    exact (order.advance.bounds behind).1
  · have more : s.rest ≠ [] := List.ne_nil_of_mem member
    have wide := order.current_lt more
    have gap := order.gap more
    rcases Node.branch_stop_cases .aggregateModifier s.current.start s.current.start
      (aggregateModifier s).1.children with start | start | ⟨c, child, stop⟩
    · change (aggregateModifier s).1.stop = s.current.start at start
      omega
    · change (aggregateModifier s).1.stop = s.current.start at start
      omega
    · change (aggregateModifier s).1.stop = c.stop at stop
      rcases List.mem_cons.mp child with rfl | child
      · simp only [Node.leaf_stop] at stop
        omega
      · obtain rfl := List.mem_singleton.mp child
        exact stop ▸ Nat.le_max_right _ _

end Modifiers

section Slips

/-- A node over one token of the input, or over nothing. -/
def Slip (input : Stream) (n : Node) : Prop :=
  n.start = n.stop ∨ ∃ t ∈ input.rest, n.start = t.start ∧ n.stop = t.stop

theorem missing_slip (s : Stream) : Slip input s.missing :=
  .inl (Nat.max_self _).symm

theorem leaf_slip (order : input.InOrder) (leads : input.LeadsTo s) (more : s.rest ≠ [])
    (kind : NodeKind) : Slip input (s.leaf kind).1 := by
  have wide := (leads.inOrder order).current_lt more
  refine .inr ⟨s.current, leads.current_mem more, rfl, ?_⟩
  exact Nat.max_eq_left (Nat.le_of_lt wide)

theorem strays_slip (order : input.InOrder) (leads : input.LeadsTo s) (stops : Token.Kind → Bool) :
    ∀ n ∈ (s.strays stops).1, Slip input n := by
  intro n member
  obtain ⟨t, among, rfl⟩ := List.mem_map.mp member
  have left : t ∈ s.rest := (List.takeWhile_sublist _).subset among
  have wide := ((leads.inOrder order).bounds left).2.1
  refine .inr ⟨t, leads.suffix.subset left, ?_⟩
  unfold Stream.strayNode
  split
  · simp only [Node.wrap_start, Node.leaf_start, Node.wrap_leaf_stop, Node.leaf_stop, true_and]
    omega
  · simp only [Node.leaf_start, Node.leaf_stop, true_and]
    omega

theorem wrap_slip {n : Node} (slip : Slip input n) (ordered : n.start ≤ n.stop) (kind : NodeKind) :
    Slip input (.wrap kind n) := by
  unfold Slip
  rwa [Node.wrap_start, Node.wrap_stop kind ordered]

theorem matcherValue_slip (order : input.InOrder) (leads : input.LeadsTo s) :
    Slip input (matcherValue s).1 := by
  unfold matcherValue
  split
  · rename_i found
    exact leaf_slip order leads (rest_ne_nil (by simp [found])) _
  · exact missing_slip s
  · exact missing_slip s
  · exact missing_slip s
  · rename_i more
    exact leaf_slip order leads (rest_ne_nil more) _

theorem comparison_slip (order : input.InOrder) (leads : input.LeadsTo s) :
    ∀ n ∈ (comparison s).1, Slip input n := by
  unfold comparison
  split
  · rename_i op found
    obtain ⟨more, valid⟩ := kind_of_matchOp? found
    have symbol := leaf_slip order leads (rest_ne_nil more) (.matchSymbol op)
    have value := matcherValue_slip order (leads.read (.token 0 (.matchSymbol op) rfl more valid))
    simp only [List.mem_cons, List.not_mem_nil, or_false, forall_eq_or_imp, forall_eq]
    exact ⟨wrap_slip symbol (Nat.le_max_right _ _) .matchOp, value⟩
  · split
    · exact List.forall_mem_singleton.mpr (missing_slip s)
    · exact List.forall_mem_singleton.mpr (missing_slip s)
    · exact List.forall_mem_singleton.mpr (missing_slip s)
    · exact List.forall_mem_singleton.mpr (missing_slip s)
    · rename_i more _
      have error := leaf_slip order leads (rest_ne_nil more) .error
      have later := leads.read (.errorLeaf 0 more)
      dsimp only [Stream.leaf] at error ⊢
      split
      · rename_i found
        have value := leaf_slip order later (rest_ne_nil (by simp [found])) .stringLiteral
        exact List.forall_mem_cons.mpr ⟨error, List.forall_mem_singleton.mpr value⟩
      · exact List.forall_mem_singleton.mpr error

/-- Every part of a matcher is one token, or something that is missing. -/
theorem labelMatcher_slip (order : input.InOrder) (leads : input.LeadsTo s) {name : String}
    (found : s.kind = .ident name) : ∀ n ∈ (labelMatcher s).1.children, Slip input n := by
  have label := leaf_slip order leads (rest_ne_nil (by simp [found])) .labelName
  exact List.forall_mem_cons.mpr
    ⟨label, comparison_slip order (leads.read (.ident 0 .labelName rfl found))⟩

theorem callParts_slip (order : input.InOrder) (depth : Nat) (leads : input.LeadsTo s)
    (steps : Nat) : ∀ n, .stray n ∈ (callParts (expr depth) steps s).1 → Slip input n := by
  induction steps generalizing s with
  | zero => exact fun _ member => absurd member List.not_mem_nil
  | succ steps ih =>
    have first : ∀ n, .stray n = (argument (expr depth) s).1 → Slip input n := by
      intro n same
      unfold argument at same
      split at same
      · cases same
      · cases same
        exact missing_slip s
    have middle := leads.read (argument_reads (expr_subReads depth) s).1
    have strays := strays_slip order middle endsArgument
    have later := middle.read (strays_reads 0 (argument (expr depth) s).2 endsArgument)
    have parts : ∀ n, .stray n ∈ (argument (expr depth) s).1 ::
        ((argument (expr depth) s).2.strays endsArgument).1.map Part.stray → Slip input n := by
      intro n member
      rcases List.mem_cons.mp member with same | among
      · exact first n same
      · obtain ⟨m, among, same⟩ := List.mem_map.mp among
        cases same
        exact strays n among
    intro n member
    rw [callParts] at member
    dsimp only at member
    split at member
    · rename_i comma
      rcases List.mem_append.mp member with here | more
      · exact parts n here
      · exact ih (later.read (.punctuation (by rw [comma]; rfl))) n more
    · exact parts n member
    · exact parts n member

/-- Errors beside the arguments of a call are one token, or an argument that is missing. -/
theorem callBody_slip (order : input.InOrder) (depth : Nat) (leads : input.LeadsTo s)
    (opens : s.kind = .leftParen) {n : Node} (child : n ∈ (callBody (expr depth) s).1.children)
    (isError : n.kind = .error) : Slip input n := by
  have later := leads.read (.punctuation (s := s) (by rw [opens]; rfl))
  change n ∈ listChildren .functionCallArgs (arguments (expr depth) s.advance).1 at child
  rcases mem_listChildren.mp child with isList | isStray
  · have kind := chain_kind _ _ n (Option.mem_toList.mpr isList)
    rw [isError] at kind
    cases kind
  · unfold arguments at isStray
    split at isStray
    · cases isStray
    · exact callParts_slip order depth later _ n isStray

/-- Errors behind the expression in parentheses are one token each. -/
theorem paren_slip (order : input.InOrder) (depth : Nat) (leads : input.LeadsTo s)
    (opens : s.kind = .leftParen) {n : Node} (made : .wrap .expr n = (paren (expr depth) s).1) :
    ∀ c ∈ n.children.tail, Slip input c := by
  have inner := (leads.read (.punctuation (by rw [opens]; rfl))).read
    (expectExpr_reads (expr_subReads depth) 0 s.advance)
  have same := congrArg Node.children made
  cases same
  exact strays_slip order inner closesParen

/-- Errors behind the expression of a query are one token each. -/
theorem query_slip (order : input.InOrder) (size : Nat) {n : Node}
    (child : n ∈ (query input size).children) (isError : n.kind = .error) : Slip input n := by
  change n ∈ (topExpr input).1 ++ ((topExpr input).2.strays endsNothing).1 at child
  rcases List.mem_append.mp child with isExpr | isStray
  · unfold topExpr at isExpr
    split at isExpr
    · rename_i starts
      rw [List.mem_singleton] at isExpr
      rcases (expr_subReads maxDepth).operand 0 input starts with ⟨-, kind⟩ | ⟨none, -⟩
      · rw [isExpr, kind] at isError
        cases isError
      · cases none
    · cases isExpr
  · exact strays_slip order (topExpr_yields order (.refl input)).leads endsNothing n isStray

end Slips

end Parser

/-- Where an error may stand right behind an expression or the arguments of a call. -/
theorem Rule.error_behind {k x : NodeKind} {kinds : List NodeKind} {i : Nat} (rule : Rule k kinds)
    (before : kinds[i]? = some x) (ends : x = .expr ∨ x = .functionCallArgs)
    (error : kinds[i + 1]? = some .error) :
    k = .query ∨ k = .parenExpr ∨ k = .functionCallBody ∨
      k = .functionCallArgs ∧ kinds = [.functionCallArgs, .error] ∨
      Completion.holdsDuration k = true := by
  have member := List.mem_of_getElem? before
  have holds : x.holdsExpr = true := by rcases ends with rfl | rfl <;> rfl
  have outer : k.holdsExpr = true := by
    by_contra bare
    rw [rule.bare_of_mem (by simpa using bare) x member] at holds
    cases holds
  cases rule with
  | query | queryExpr => exact .inl rfl
  | parenExpr => exact .inr (.inl rfl)
  | offsetExpr | matrixSelector | subqueryExpr => exact .inr (.inr (.inr (.inr rfl)))
  | aggregateOp | aggregateModifier | groupingLabel | binModifiers | functionIdentifier
  | metricIdentifier | labelMatcher | matchOp | error => cases outer
  | expr => simp at error
  | functionCall => rcases ends with rfl | rfl <;> simp at member
  | aggregateExpr list early late =>
    rcases ends with rfl | rfl <;> rcases list with rfl | rfl <;> rcases early with rfl | rfl <;>
      rcases late with rfl | rfl | ⟨-, rfl⟩ <;> simp at member
  | vectorSelector some_part =>
    rcases ends with rfl | rfl <;> rcases some_part with rfl | rfl | rfl <;> simp at member
  | unaryExpr operand =>
    cases i with
    | zero =>
      cases before
      rcases ends with same | same <;> cases same
    | succ i => simp at error
  | binaryExpr op optional operand =>
    -- Behind the left operand stands the operator, and nothing stands behind the right one.
    match i with
    | 0 => cases error
    | 1 =>
      cases before
      rcases ends with same | same <;> cases same
    | i + 2 =>
      rcases optional with rfl | rfl
      · simp at error
      · cases i with
        | zero =>
          cases before
          rcases ends with same | same <;> cases same
        | succ i => simp at error
  | listStart rule => simp at error
  | listMore rule =>
    cases i with
    | zero =>
      cases error
      cases rule with
      | arguments => exact .inr (.inr (.inr (.inl ⟨rfl, rfl⟩)))
    | succ i => simp at error
  | body rule =>
    cases rule with
    | arguments => exact .inr (.inr (.inl rfl))
    | labels | matchers => cases outer

namespace SyntaxTree

variable {text : Text}

/-- The sibling before a child, when it is an expression or the arguments of a call. -/
theorem exists_before {parent c : Cursor} (child : c ∈ parent.children)
    (behind : (Completion.precedingExpr? c).isSome = true) :
    ∃ i before, parent.node.children[i]? = some before ∧
      (before.kind = .expr ∨ before.kind = .functionCallArgs) ∧
      parent.node.children[i + 1]? = some c.node := by
  obtain ⟨index, inside, frames⟩ := Cursor.mem_children.mp child
  obtain ⟨expr, found⟩ := Option.isSome_iff_exists.mp behind
  obtain ⟨before, isBefore, ends⟩ := Option.bind_eq_some_iff.mp found
  simp only [Cursor.prev?, frames] at isBefore
  cases index with
  | zero => cases isBefore
  | succ i =>
    obtain ⟨node, isNode, rfl⟩ := Option.map_eq_some_iff.mp isBefore
    refine ⟨i, node, isNode, ?_, inside⟩
    unfold Node.endingExpr? at ends
    split at ends
    · rename_i kind
      exact .inl kind
    · rename_i kind
      exact .inr kind
    · cases ends

/-- An error in a matcher is one token, or something that is missing. -/
theorem slip_of_matcher {parent : Node} (member : parent ∈ (parse text).nodes)
    (kind : parent.kind = .labelMatcher) {n : Node} (child : n ∈ parent.children) :
    Parser.Slip (.ofText text) n := by
  have arises := parse_arises text _ member
  rw [Node.Arises, kind] at arises
  obtain ⟨s, name, leads, found, rfl⟩ := arises
  exact Parser.labelMatcher_slip (Stream.ofText_inOrder text) leads found n child

/-- An error right behind an expression, unless a duration is expected there, is one token. -/
theorem slip_of_behind {parent c : Cursor} (above : parent ∈ (parse text).cursors)
    (child : c ∈ parent.children) (isError : c.kind = .error)
    (behind : (Completion.precedingExpr? c).isSome = true)
    (length : Completion.holdsDuration parent.kind = false) :
    Parser.Slip (.ofText text) c.node := by
  have order := Stream.ofText_inOrder text
  have member := node_mem_nodes above
  have inside := Cursor.node_mem_children child
  have arises := parse_arises text _ member
  obtain ⟨i, before, isBefore, ends, isHere⟩ := exists_before child behind
  have rule := (parse_lawful text _ member).rule.resolve_left (by
    rintro ⟨none, -⟩
    rw [none] at inside
    cases inside)
  have error : (parent.node.children.map Node.kind)[i + 1]? = some .error := by
    rw [List.getElem?_map, isHere]
    exact congrArg some isError
  unfold Node.Arises at arises
  rcases rule.error_behind (by rw [List.getElem?_map, isBefore]; rfl) ends error with
    kind | kind | kind | ⟨kind, both⟩ | kind
  · rw [kind] at arises
    obtain ⟨size, made⟩ := arises
    rw [made] at inside
    exact Parser.query_slip order size inside isError
  · rw [kind] at arises
    obtain ⟨depth, s, leads, opens, made⟩ := arises
    have tail : parent.node.children.tail[i]? = some c.node := by
      rw [List.getElem?_tail]
      exact isHere
    exact Parser.paren_slip order depth leads opens made _ (List.mem_of_getElem? tail)
  · rw [kind] at arises
    obtain ⟨depth, s, leads, opens, made⟩ := arises
    rw [made] at inside
    exact Parser.callBody_slip order depth leads opens inside isError
  · exact absurd both (parse_arguments text _ member kind)
  · rw [Cursor.kind, kind] at length
    cases length

end SyntaxTree

namespace Completion

/-- Where what is replaced holds a bracket: right behind a pair of brackets with nothing in it, in
a gap between the modifiers of an operator behind labels, or on a bracket that fits nowhere. -/
inductive TakesBracket (text : Text) (c : Cursor) (pos : Nat) : Prop
  | behindEmpty (body : c.kind.isBody = true) (empty : c.node.children = [])
      (closed : c.node.start + 1 < c.node.stop) (behind : pos = c.node.stop)
  | betweenModifiers {labels : Node} (modifiers : c.kind = .binModifiers)
      (child : labels ∈ c.node.children) (kind : labels.kind = .groupingLabels)
      (before : labels.stop ≤ pos)
  | stray {t : Token} (error : c.kind = .error)
      (length : (c.parentKind?.map holdsDuration).getD false = false)
      (member : t ∈ Token.scan text) (bracket : t.kind.isPlain = false)
      (start : c.node.start = t.start) (stop : c.node.stop = t.stop)

/-- The kinds of node where something is suggested, by what is replaced there. -/
theorem replaced_kinds {source : Text} {c : Cursor} {pos : Nat}
    (some : contexts source c pos ≠ []) :
    replacementStart c pos = pos ∨ c.kind.isBody = true ∨ c.kind = .error ∨ c.kind = .matchOp ∨
      c.kind = .aggregateModifier ∨ c.kind = .binModifiers ∨
      c.kind.isLeaf = true ∧ c.kind ≠ .error ∧ c.kind ≠ .duration := by
  unfold contexts at some
  unfold replacementStart Cursor.kind
  dsimp only at some ⊢
  generalize c.node.kind = kind at some ⊢
  cases kind <;> simp_all [NodeKind.isBody, NodeKind.isLeaf]

section Within

variable {text : Text} {c : Cursor} {pos : Nat}

/-- A body without children is an opening bracket, or that and the one that closes it. -/
theorem bare_body {n : Node} (member : n ∈ (SyntaxTree.parse text).nodes)
    (body : n.kind.isBody = true) (childless : n.children = []) :
    n.stop = n.start + 1 ∨ ∃ u ∈ (Stream.ofText text).rest, u.kind.isPlain = false ∧
      n.start + 1 < u.stop ∧ u.stop = n.stop ∧
      ∀ t ∈ (Stream.ofText text).rest, n.start + 1 < t.stop → t.start < n.stop → t = u := by
  have order := Stream.ofText_inOrder text
  obtain ⟨s, after, leads, opens, start, stop, ends⟩ :=
    (SyntaxTree.parse_arises text n member).bare body childless
  have here := leads.inOrder order
  have more : s.rest ≠ [] := Parser.rest_ne_nil (by rcases opens with same | same <;> simp [same])
  have bracket : s.kind.isPlain = false := by rcases opens with same | same <;> rw [same] <;> rfl
  have width := Token.stop_of_bracket (leads.current_mem more) bracket
  rcases ends with rfl | ⟨closes, rfl⟩
  · left
    rw [Stream.last_advance more] at stop
    omega
  · right
    have silent : s.kind.isPunctuation = true := by
      rcases opens with same | same <;> rw [same] <;> rfl
    have closing : s.advance.rest ≠ [] :=
      Parser.rest_ne_nil (by rcases closes with same | same <;> simp [same])
    have closer : s.advance.kind.isPlain = false := by
      rcases closes with same | same <;> rw [same] <;> rfl
    have among := (leads.read (.punctuation silent)).current_mem closing
    have gap := here.gap more
    have wide := here.advance.current_lt closing
    rw [Stream.last_advance closing] at stop
    refine ⟨s.advance.current, among, closer, by omega, by omega, ?_⟩
    intro t other after before
    exact leads.eq_second order closing other (by omega) (by omega)

/-- In a body, only the bracket that closes it can be replaced, right behind it. -/
theorem takesBracket_of_body (member : c.node ∈ (SyntaxTree.parse text).nodes)
    (body : c.kind.isBody = true) (upper : pos ≤ c.node.stop)
    (within : Text.BracketWithin text (replacementStart c pos) pos) : TakesBracket text c pos := by
  obtain ⟨t, among, bracket, overlap⟩ := within.exists_mem
  rw [replacementStart_body pos body] at overlap
  split at overlap
  · rename_i empty
    have childless : c.node.children = [] := List.isEmpty_iff.mp empty
    have width := Token.stop_of_bracket among bracket
    rcases bare_body member body childless with alone | ⟨u, -, -, wide, stop, only⟩
    · omega
    · obtain rfl := only t among (by omega) (by omega)
      exact .behindEmpty body childless (by omega) (by omega)
  · omega

/-- A bracket within a part of one token is that token. -/
theorem bracket_of_token {u : Token} {start : Nat} (member : u ∈ (Stream.ofText text).rest)
    (lower : u.start ≤ start) (upper : pos ≤ u.stop)
    (within : Text.BracketWithin text start pos) : u.kind.isPlain = false := by
  obtain ⟨t, among, bracket, overlap⟩ := within.exists_mem
  have apart := (Stream.ofText_inOrder text).ordered.apart
  obtain rfl := apart.eq_of_overlap among member (by omega) (by omega)
  exact bracket

/-- A leaf with suggestions stands for no bracket. -/
theorem not_bracketWithin_of_leaf (member : c.node ∈ (SyntaxTree.parse text).nodes)
    (isLeaf : c.kind.isLeaf = true) (notError : c.kind ≠ .error) (notDuration : c.kind ≠ .duration)
    (upper : pos ≤ c.node.stop) {start : Nat} (lower : c.node.start ≤ start) :
    ¬ Text.BracketWithin text start pos := by
  intro within
  obtain ⟨s, leads, more, stands, same⟩ :=
    (SyntaxTree.parse_arises text _ member).token isLeaf notError notDuration
  have wide := (leads.inOrder (Stream.ofText_inOrder text)).current_lt more
  have starts := congrArg Node.start same
  have ends := congrArg Node.stop same
  simp only [Stream.leaf, Node.leaf_start, Node.leaf_stop] at starts ends
  have bracket := bracket_of_token (leads.current_mem more) (by omega) (by omega) within
  rw [← Stream.kind, NodeKind.isPlain_of_standsFor stands] at bracket
  cases bracket

/-- The operator of a matcher is no bracket. -/
theorem not_bracketWithin_of_matchOp (member : c.node ∈ (SyntaxTree.parse text).nodes)
    (kind : c.kind = .matchOp) (upper : pos ≤ c.node.stop) {start : Nat}
    (lower : c.node.start ≤ start) : ¬ Text.BracketWithin text start pos := by
  intro within
  have arises := SyntaxTree.parse_arises text _ member
  rw [Node.Arises, show c.node.kind = .matchOp from kind] at arises
  obtain ⟨s, op, leads, found, same⟩ := arises
  have more := Parser.rest_ne_nil (Parser.kind_of_matchOp? found).1
  have wide := (leads.inOrder (Stream.ofText_inOrder text)).current_lt more
  have starts := congrArg Node.start same
  have ends := congrArg Node.stop same
  simp only [Stream.leaf, Node.wrap_start, Node.leaf_start, Node.wrap_leaf_stop, Node.leaf_stop]
    at starts ends
  have bracket := bracket_of_token (leads.current_mem more) (by omega) (by omega) within
  have stands := Parser.standsFor_of_matchOp? found op
  rw [← Stream.kind, NodeKind.isPlain_of_standsFor stands] at bracket
  cases bracket

/-- The modifier of an aggregation has no suggestions behind its labels but those in them. -/
theorem not_bracketWithin_of_aggregateModifier (member : c.node ∈ (SyntaxTree.parse text).nodes)
    (kind : c.kind = .aggregateModifier) (upper : pos ≤ c.node.stop)
    (stops : ∀ n ∈ c.node.children, Side.before.covers pos n = false) {start : Nat}
    (lower : c.node.start ≤ start) : ¬ Text.BracketWithin text start pos := by
  intro within
  obtain ⟨t, among, bracket, overlap⟩ := within.exists_mem
  have order := Stream.ofText_inOrder text
  have arises := SyntaxTree.parse_arises text _ member
  rw [Node.Arises, show c.node.kind = .aggregateModifier from kind] at arises
  obtain ⟨s, leads, found, same⟩ := arises
  rw [same] at stops upper lower
  have here := leads.inOrder order
  have read := Parser.aggregateModifier_reads 0 found
  have first := ((read.laid here).bounds _ (List.mem_singleton_self _)).1
  dsimp only at first
  have left : t ∈ s.rest := (leads.mem_or_behind order among).resolve_right (by omega)
  obtain ⟨l, child, before, behind⟩ := Parser.aggregateModifier_bracket here found left bracket
  have outside := Side.covers_before_eq_false.mp (stops l child)
  omega

/-- Between the modifiers of an operator, a bracket that is replaced belongs to labels. -/
theorem takesBracket_of_binModifiers (member : c.node ∈ (SyntaxTree.parse text).nodes)
    (kind : c.kind = .binModifiers) (upper : pos ≤ c.node.stop)
    (stops : ∀ n ∈ c.node.children, Side.before.covers pos n = false) {start : Nat}
    (lower : c.node.start ≤ start) (within : Text.BracketWithin text start pos) :
    TakesBracket text c pos := by
  obtain ⟨t, among, bracket, overlap⟩ := within.exists_mem
  have order := Stream.ofText_inOrder text
  have arises := SyntaxTree.parse_arises text _ member
  rw [Node.Arises, show c.node.kind = .binModifiers from kind] at arises
  obtain ⟨s, leads, made⟩ := arises
  have here := leads.inOrder order
  have read := (Parser.binModifiers_reads 0 s).1
  rw [← made] at read
  have first := ((read.laid here).bounds c.node (by simp)).1
  have left : t ∈ s.rest := (leads.mem_or_behind order among).resolve_right (by omega)
  obtain ⟨l, child, labels, before⟩ :=
    Parser.binModifiers_bracket here made left bracket (by omega)
  have outside := Side.covers_before_eq_false.mp (stops l child)
  exact .betweenModifiers kind child labels (by omega)

theorem exists_parent (behind : (precedingExpr? c).isSome = true) :
    ∃ parent, c.parent? = some parent := by
  unfold precedingExpr? Cursor.prev? at behind
  unfold Cursor.parent?
  split at behind
  · cases behind
  · exact ⟨_, rfl⟩

/-- An error that is replaced is one token. -/
theorem slip_of_error (place : c ∈ (SyntaxTree.parse text).cursors) (isError : c.kind = .error)
    (some : contexts text c pos ≠ [])
    (length : (c.parentKind?.map holdsDuration).getD false = false) :
    Parser.Slip (.ofText text) c.node := by
  simp only [contexts, show c.node.kind = .error from isError, length] at some
  by_cases matcher : c.parentKind? = Option.some .labelMatcher
  · obtain ⟨parent, up, kind⟩ := Option.map_eq_some_iff.mp matcher
    have child := (SyntaxTree.mem_children_iff place).mpr up
    have above := SyntaxTree.node_mem_nodes (SyntaxTree.parent_mem_cursors place up)
    exact SyntaxTree.slip_of_matcher above kind (Cursor.node_mem_children child)
  · have behind : (precedingExpr? c).isSome = true := by
      simpa [matcher, ofKinds, Option.isSome_iff_ne_none] using some
    obtain ⟨parent, up⟩ := exists_parent behind
    have child := (SyntaxTree.mem_children_iff place).mpr up
    rw [Cursor.parentKind?, up] at length
    exact SyntaxTree.slip_of_behind (SyntaxTree.parent_mem_cursors place up) child isError behind
      length

/-- On an error, the bracket that is replaced is the error itself. -/
theorem takesBracket_of_error (place : c ∈ (SyntaxTree.parse text).cursors)
    (isError : c.kind = .error) (some : contexts text c pos ≠ []) (lower : c.node.start < pos)
    (upper : pos ≤ c.node.stop)
    (within : Text.BracketWithin text (replacementStart c pos) pos) : TakesBracket text c pos := by
  have start : replacementStart c pos =
      if (c.parentKind?.map holdsDuration).getD false then pos else c.node.start := by
    simp only [replacementStart, show c.node.kind = .error from isError]
  rw [start] at within
  split at within
  · obtain ⟨t, -, -, overlap⟩ := within
    omega
  · rename_i length
    have length := Bool.eq_false_iff.mpr length
    rcases slip_of_error place isError some length with empty | ⟨t, among, first, last⟩
    · omega
    · have bracket := bracket_of_token among (Nat.le_of_eq first.symm) (by omega) within
      exact .stray isError length (Stream.mem_scan_of_ofText text among) bracket first last

/-- A replacement within a node starts no earlier than that. -/
theorem le_replacementStart (lower : c.node.start ≤ pos) :
    c.node.start ≤ replacementStart c pos := by
  rcases replacementStart_cases c pos with atPos | ⟨-, atNode | ⟨-, inside⟩⟩
  · omega
  · omega
  · omega

/-- A bracket that is replaced is one of those that can be. -/
theorem takesBracket_of_within {c : Cursor}
    (here : (SyntaxTree.parse text).resolve pos .before = c) (some : contexts text c pos ≠ [])
    (within : Text.BracketWithin text (replacementStart c pos) pos) : TakesBracket text c pos := by
  have place : c ∈ (SyntaxTree.parse text).cursors := here ▸ SyntaxTree.resolve_mem text pos .before
  have stops := (SyntaxTree.parse text).resolve_stops pos .before
  have covers : c.kind ≠ .query → c.node.start < pos ∧ pos ≤ c.node.stop :=
    here ▸ SyntaxTree.resolve_start_lt (SyntaxTree.parse_wellFormed text).root_kind
  rw [here] at stops
  have member := SyntaxTree.node_mem_nodes place
  obtain ⟨t, among, bracket, overlap⟩ := within
  rcases replacementStart_cases c pos with atPos | ⟨below, -⟩
  · omega
  · obtain ⟨before, upper⟩ := covers below
    have lower := le_replacementStart (Nat.le_of_lt before)
    have within : Text.BracketWithin text (replacementStart c pos) pos :=
      ⟨t, among, bracket, overlap⟩
    rcases replaced_kinds some with atPos | body | error | kind | kind | kind | ⟨leaf, other, short⟩
    · omega
    · exact takesBracket_of_body member body upper within
    · exact takesBracket_of_error place error some before upper within
    · exact absurd within (not_bracketWithin_of_matchOp member kind upper lower)
    · exact absurd within (not_bracketWithin_of_aggregateModifier member kind upper stops lower)
    · exact takesBracket_of_binModifiers member kind upper stops lower within
    · exact absurd within (not_bracketWithin_of_leaf member leaf other short upper lower)

/-- Where a bracket can be replaced, one is. -/
theorem TakesBracket.within (place : c ∈ (SyntaxTree.parse text).cursors)
    (lower : c.node.start < pos) (upper : pos ≤ c.node.stop) (takes : TakesBracket text c pos) :
    Text.BracketWithin text (replacementStart c pos) pos := by
  have formed := SyntaxTree.parse_wellFormed text
  have member := SyntaxTree.node_mem_nodes place
  cases takes with
  | behindEmpty body empty closed behind =>
    rw [replacementStart_body pos body, empty, List.isEmpty_nil, if_pos rfl]
    rcases bare_body member body empty with alone | ⟨u, among, bracket, wide, stop, -⟩
    · omega
    · have width := Token.stop_of_bracket among bracket
      exact ⟨u, Stream.mem_scan_of_ofText text among, bracket, by omega⟩
  | @betweenModifiers labels modifiers child kind before =>
    have inside := formed.nested c.node member labels child
    have arises := SyntaxTree.parse_arises text labels (Node.mem_preorder_of_child member child)
    rw [Node.Arises, kind] at arises
    obtain ⟨s, leads, opens, rfl⟩ := arises
    have here := leads.inOrder (Stream.ofText_inOrder text)
    have start := Parser.groupingLabels_start here opens
    have wide := ((Parser.groupingLabels_reads 0 opens).laid here).wide _ List.mem_cons_self
      (by simp)
    dsimp only at wide
    have among := leads.current_mem (Parser.rest_ne_nil (by simp [opens]))
    have bracket : s.current.kind.isPlain = false := by rw [← Stream.kind, opens]; rfl
    have width := Token.stop_of_bracket among bracket
    simp only [replacementStart, show c.node.kind = .binModifiers from modifiers]
    exact ⟨_, Stream.mem_scan_of_ofText text among, bracket, by omega⟩
  | stray error length among bracket start stop =>
    simp only [replacementStart, show c.node.kind = .error from error, length]
    exact ⟨_, among, bracket, by simp only [Bool.false_eq_true, if_false]; omega⟩

end Within

variable {σ : Type}

/-- Exactly where a completion replaces a bracket: right behind an empty pair of brackets, in a gap
between the modifiers of an operator behind labels, and on a bracket that fits nowhere. -/
theorem complete_replaces_bracket_iff (client : Option (MetadataClient σ)) (limit : Nat)
    (text : Text) (pos : Nat) (s : σ) {r : CompletionResult}
    (found : (complete client limit text pos s).result = some r) :
    Text.BracketWithin text r.start r.stop ↔
      TakesBracket text ((SyntaxTree.parse text).resolve (min pos (Text.size text)) .before)
        (min pos (Text.size text)) := by
  obtain ⟨some, start, stop, -⟩ := complete_result client limit text pos s found
  generalize min pos (Text.size text) = p at *
  rw [start, stop]
  refine ⟨takesBracket_of_within rfl some, fun takes => ?_⟩
  have below : ((SyntaxTree.parse text).resolve p .before).kind ≠ .query := by
    intro root
    cases takes with
    | behindEmpty body => rw [root] at body; cases body
    | betweenModifiers modifiers => rw [root] at modifiers; cases modifiers
    | stray error => rw [root] at error; cases error
  obtain ⟨lower, upper⟩ :=
    SyntaxTree.resolve_start_lt (SyntaxTree.parse_wellFormed text).root_kind below
  exact takes.within (SyntaxTree.resolve_mem text p .before) lower upper

/-- Behind braces with nothing in them the closing one is replaced. -/
theorem complete_replaces_bracket_emptyBraces :
    (complete (none : Option (MetadataClient Unit)) 0 "\x7b\x7d".toList 2 ()).result =
        some ⟨1, 2, [], some identifierSpan⟩ ∧
      Text.BracketWithin "\x7b\x7d".toList 1 2 := by
  have result : (complete (none : Option (MetadataClient Unit)) 0 "\x7b\x7d".toList 2 ()).result =
      some ⟨1, 2, [], some identifierSpan⟩ := by decide +kernel
  refine ⟨result, (complete_replaces_bracket_iff none 0 _ 2 () result).mpr ?_⟩
  exact .behindEmpty (by decide +kernel) (by decide +kernel) (by decide +kernel) (by decide +kernel)

/-- So not every completion leaves the brackets of a text alone. -/
theorem complete_takes_closing :
    ¬ ∀ (text : Text) (pos : Nat) (r : CompletionResult), Text.isBoundary text pos = true →
      (complete (none : Option (MetadataClient Unit)) 0 text pos ()).result = some r →
      ¬ Text.BracketWithin text r.start r.stop := by
  intro keeps
  refine keeps "\x7b\x7d".toList 2 ⟨1, 2, [], some identifierSpan⟩ (by decide +kernel)
    (by decide +kernel) ⟨⟨.rightBrace, ⟨1, 1⟩⟩, ?_, rfl, by decide⟩
  decide +kernel

end Completion

end MetricQuery
