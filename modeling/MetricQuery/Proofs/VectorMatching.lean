import MetricQuery.Proofs.Diagnostics
import MetricQuery.Proofs.Flattening
import MetricQuery.Proofs.Modifiers

/-!
Vector matching is read off the tokens behind an operator: `on` or `ignoring` and the labels in the
parentheses right behind it, then `group_left` or `group_right` and those behind it. A matching is
taken from the modifiers of the tree child by child, with a flag that tells which labels come next;
the flag is right because an error stands in for parentheses that are missing.
-/

set_option autoImplicit false

namespace MetricQuery

namespace Token

/-- The first token, if it is one of two keywords, and what follows it. -/
def spanKeyword (one other : String) : List Token → Option Token × List Token
  | [] => (none, [])
  | t :: ts => if t.isKeyword one || t.isKeyword other then (some t, ts) else (none, t :: ts)

/-- What stands in the parentheses that open right here, and what follows these. -/
def spanParens : List Token → List Token × List Token
  | [] => ([], [])
  | t :: ts =>
    if t.kind = .leftParen then (beforeClosing ts, (fromClosing ts).tail) else ([], t :: ts)

end Token

/-- The tokens that ask for a matching. -/
structure MatchingTokens where
  /-- `on` or `ignoring`. -/
  keyword : Option Token
  labels : List Token
  /-- `group_left` or `group_right`. -/
  side : Option Token
  included : List Token

namespace MatchingTokens

/-- The tokens of a group clause, given what comes before it. -/
def readGroup (keyword : Token) (labels ts : List Token) : MatchingTokens :=
  let (side, ts) := Token.spanKeyword "group_left" "group_right" ts
  ⟨some keyword, labels, side, if side.isSome then (Token.spanParens ts).1 else []⟩

/-- The tokens of a matching that starts here. There is a group clause only behind `on` or
`ignoring`. -/
def readClause (ts : List Token) : MatchingTokens :=
  match Token.spanKeyword "on" "ignoring" ts with
  | (none, _) => ⟨none, [], none, []⟩
  | (some keyword, ts) =>
    let (labels, ts) := Token.spanParens ts
    readGroup keyword labels ts

/-- The tokens of a matching among those behind an operator, where `bool` may come first. -/
def read (ts : List Token) : MatchingTokens :=
  readClause (if ts.head?.any (·.isKeyword "bool") then ts.tail else ts)

/-- The matching that tokens ask for, the operator apart. -/
def meaning (c : MatchingTokens) : Matching where
  card :=
    if c.side.any (·.isKeyword "group_left") then .manyToOne
    else if c.side.any (·.isKeyword "group_right") then .oneToMany
    else .oneToOne
  labels := Token.names c.labels
  on := c.keyword.any (·.isKeyword "on")
  included := Token.names c.included

end MatchingTokens

namespace Parser

variable {text : Text} {s : Stream}

theorem atKeyword_cons {t : Token} {ts : List Token} (next : s.rest = t :: ts) (word : String) :
    s.atKeyword word = t.isKeyword word := by
  rw [Stream.atKeyword, Stream.current_cons next]

theorem atKeyword_nil (done : s.rest = []) (word : String) : s.atKeyword word = false := by
  rw [Stream.atKeyword_eq, done]
  rfl

theorem spanParens_of_opens {t : Token} {ts : List Token} (next : s.rest = t :: ts)
    (opens : s.kind = .leftParen) :
    Token.spanParens s.rest = (Token.beforeClosing ts, (Token.fromClosing ts).tail) := by
  rw [Stream.kind_of_rest next] at opens
  rw [next, Token.spanParens, if_pos opens]

theorem spanParens_of_ne (absent : s.kind ≠ .leftParen) :
    Token.spanParens s.rest = ([], s.rest) := by
  cases next : s.rest with
  | nil => rfl
  | cons t ts =>
    rw [Stream.kind_of_rest next] at absent
    rw [Token.spanParens, if_neg absent]

/-- Labels that may be missing are those in the parentheses that open here. -/
theorem expectGroupingLabels_spans (written : s.Written text) (m : Matching)
    (bare : m.labels = []) :
    Matching.extend text (m, false) (expectGroupingLabels s).1 =
        ({ m with labels := Token.names (Token.spanParens s.rest).1 }, false) ∧
      (expectGroupingLabels s).2.rest = (Token.spanParens s.rest).2 := by
  unfold expectGroupingLabels
  by_cases opens : s.kind = .leftParen
  · obtain ⟨t, ts, next⟩ := Stream.rest_of_kind (s := s) (by simp [opens])
    obtain ⟨names, rest, -⟩ := groupingLabels_names next written
    rw [if_pos opens, spanParens_of_opens next opens]
    exact ⟨by simp [Matching.extend, names], rest⟩
  · rw [if_neg opens, spanParens_of_ne opens]
    refine ⟨?_, rfl⟩
    simp [Matching.extend, Stream.missing, Token.names, ← bare]

/-- The side that a group clause names. -/
def groupSide? (s : Stream) : Option NodeKind :=
  if s.atKeyword "group_left" then some .keywordGroupLeft
  else if s.atKeyword "group_right" then some .keywordGroupRight
  else none

theorem groupClause_of_side {side : NodeKind} (chosen : groupSide? s = some side) :
    (groupClause s).1 = if s.advance.kind = .leftParen then
      [(s.leaf side).1, (groupingLabels s.advance).1] else [(s.leaf side).1] := by
  rw [groupSide?] at chosen
  by_cases opens : s.advance.kind = .leftParen
  · simp only [groupClause, chosen, Stream.leaf, opens, ↓reduceIte]
  · simp only [groupClause, chosen, Stream.leaf, opens, ↓reduceIte]

/-- The side of a group clause is followed by the labels in the parentheses that open behind it. -/
theorem groupSide_spans (written : s.Written text) {side : NodeKind} {card : Cardinality}
    (means : ∀ m : Matching, Matching.extend text (m, false) (s.leaf side).1 =
      ({ m with card := card }, true)) (m : Matching) (bare : m.included = []) :
    ((if s.advance.kind = .leftParen then [(s.leaf side).1, (groupingLabels s.advance).1]
      else [(s.leaf side).1]).foldl (Matching.extend text) (m, false)).1 =
      { m with
        card := card
        included := Token.names (Token.spanParens s.advance.rest).1 } := by
  by_cases opens : s.advance.kind = .leftParen
  · obtain ⟨t, ts, next⟩ := Stream.rest_of_kind (s := s.advance) (by simp [opens])
    obtain ⟨names, -, -⟩ := groupingLabels_names next written.advance
    rw [if_pos opens, spanParens_of_opens next opens]
    simp only [List.foldl_cons, List.foldl_nil, means]
    simp [Matching.extend, names]
  · rw [if_neg opens, spanParens_of_ne opens]
    simp only [List.foldl_cons, List.foldl_nil, means]
    simp [Token.names, ← bare]

theorem groupClause_reads_off (written : s.Written text) (keyword : Token) (labels : List Token)
    (m : Matching) (one : m.card = .oneToOne) (bare : m.included = []) :
    ((groupClause s).1.foldl (Matching.extend text) (m, false)).1 =
      { (MatchingTokens.readGroup keyword labels s.rest).meaning with
        labels := m.labels
        on := m.on } := by
  cases next : s.rest with
  | nil =>
    simp [groupClause, atKeyword_nil next, MatchingTokens.readGroup, Token.spanKeyword,
      MatchingTokens.meaning, Token.names, ← one, ← bare]
  | cons t ts =>
    have later : s.advance.rest = ts := Stream.advance_rest next
    by_cases left : t.isKeyword "group_left" = true
    · have chosen : groupSide? s = some .keywordGroupLeft := by
        rw [groupSide?, atKeyword_cons next, if_pos left]
      rw [groupClause_of_side chosen, groupSide_spans written (fun _ => rfl) m bare, later]
      simp [MatchingTokens.readGroup, Token.spanKeyword, MatchingTokens.meaning, left]
    by_cases right : t.isKeyword "group_right" = true
    · have chosen : groupSide? s = some .keywordGroupRight := by
        rw [groupSide?, atKeyword_cons next, atKeyword_cons next, if_neg left, if_pos right]
      rw [groupClause_of_side chosen, groupSide_spans written (fun _ => rfl) m bare, later]
      simp [MatchingTokens.readGroup, Token.spanKeyword, MatchingTokens.meaning, left, right]
    · simp [groupClause, atKeyword_cons next, left, right, MatchingTokens.readGroup,
        Token.spanKeyword, MatchingTokens.meaning, Token.names, ← one, ← bare]

/-- A clause gives the matching that its tokens ask for. -/
theorem matchingClause_reads_off (written : s.Written text) :
    ((matchingClause s).1.foldl (Matching.extend text) (⟨.oneToOne, [], false, []⟩, false)).1 =
      (MatchingTokens.readClause s.rest).meaning := by
  cases next : s.rest with
  | nil =>
    simp [matchingClause, atKeyword_nil next, MatchingTokens.readClause, Token.spanKeyword,
      MatchingTokens.meaning, Token.names]
  | cons t ts =>
    have later : s.advance.rest = ts := Stream.advance_rest next
    -- Either keyword leads to labels and a group clause; only `on` is remembered.
    have clause : ∀ matching on, (∀ m : Matching, Matching.extend text (m, false)
        (s.leaf matching).1 = ({ m with on := m.on || on }, false)) → t.isKeyword "on" = on →
        (((s.leaf matching).1 :: (expectGroupingLabels s.advance).1 ::
          (groupClause (expectGroupingLabels s.advance).2).1).foldl (Matching.extend text)
            (⟨.oneToOne, [], false, []⟩, false)).1 =
          (MatchingTokens.readGroup t (Token.spanParens ts).1 (Token.spanParens ts).2).meaning := by
      intro matching on means isOn
      obtain ⟨labels, rest⟩ := expectGroupingLabels_spans written.advance
        ⟨.oneToOne, [], false || on, []⟩ rfl
      have leads : s.advance.LeadsTo (expectGroupingLabels s.advance).2 :=
        ⟨_, expectGroupingLabels_reads 0 s.advance⟩
      rw [later] at labels rest
      rw [List.foldl_cons, means, List.foldl_cons, labels,
        groupClause_reads_off (written.advance.later leads.suffix) t (Token.spanParens ts).1 _ rfl
          rfl, rest]
      simp [MatchingTokens.readGroup, MatchingTokens.meaning, isOn]
    by_cases on : t.isKeyword "on" = true
    · have read := clause .keywordOn true (fun m => by simp [Matching.extend]) on
      simpa [matchingClause, atKeyword_cons next, on, MatchingTokens.readClause, Token.spanKeyword,
        Stream.leaf] using read
    by_cases ignoring : t.isKeyword "ignoring" = true
    · have read := clause .keywordIgnoring false (fun m => by simp [Matching.extend])
        (by simpa using on)
      simpa [matchingClause, atKeyword_cons next, on, ignoring, MatchingTokens.readClause,
        Token.spanKeyword, Stream.leaf] using read
    · simp [matchingClause, atKeyword_cons next, on, ignoring, MatchingTokens.readClause,
        Token.spanKeyword, MatchingTokens.meaning, Token.names]

theorem boolFlag_skips (text : Text) (s : Stream) (state : Matching × Bool) :
    (boolFlag s).1.foldl (Matching.extend text) state = state ∧
      (boolFlag s).2.rest =
        if s.rest.head?.any (·.isKeyword "bool") then s.rest.tail else s.rest := by
  have flag : s.rest.head?.any (·.isKeyword "bool") = s.atKeyword "bool" := by
    cases next : s.rest with
    | nil => exact (atKeyword_nil next "bool").symm
    | cons t ts => exact (atKeyword_cons next "bool").symm
  unfold boolFlag
  rw [flag]
  cases s.atKeyword "bool" with
  | true => exact ⟨by simp [Matching.extend], s.rest_advance⟩
  | false => exact ⟨rfl, rfl⟩

/-- Modifiers give the matching that the tokens behind the operator ask for. -/
theorem binModifiers_reads_off (written : s.Written text) :
    Matching.ofModifiers text (binModifiers s).1.head? =
      (MatchingTokens.read s.rest).meaning := by
  obtain ⟨same, rest⟩ := boolFlag_skips text s (⟨.oneToOne, [], false, []⟩, false)
  have children : ((binModifiers s).1.head?.map Node.children).getD [] =
      (boolFlag s).1 ++ (matchingClause (boolFlag s).2).1 := by
    unfold binModifiers
    dsimp only
    cases (boolFlag s).1 ++ (matchingClause (boolFlag s).2).1 <;> rfl
  have later : (boolFlag s).2.Written text := by
    apply written.later
    rw [rest]
    split
    · exact List.tail_suffix s.rest
    · exact List.suffix_refl s.rest
  rw [Matching.ofModifiers, children, List.foldl_append, same, matchingClause_reads_off later, rest]
  rfl

/-- The modifiers of a binary expression stand between the operator and the right operand. -/
theorem find?_binModifiers {left symbol right : Node} (s : Stream)
    (others : ∀ n ∈ [left, symbol, right], n.kind ≠ .binModifiers) :
    (left :: symbol :: (binModifiers s).1 ++ [right]).find? (·.kind == .binModifiers) =
      (binModifiers s).1.head? := by
  simp only [List.forall_mem_cons] at others
  unfold binModifiers
  dsimp only
  cases (boolFlag s).1 ++ (matchingClause (boolFlag s).2).1 <;> simp [others]

end Parser

namespace SyntaxTree

/-- A binary expression is made of an operator of the text and of what was read behind it. -/
structure OperatorAt (text : Text) (n : Node) (symbol : Token) (after : List Token)
    (op : BinaryOp) : Prop where
  operator : n.operator? = some op
  token : n.children[1]? = some (.leaf (.operator op) symbol.start symbol.stop)
  modifiers : ∃ s : Stream, s.rest = after ∧ s.Written text ∧
    n.child? .binModifiers = (Parser.binModifiers s).1.head?

theorem exists_operatorAt (text : Text) {n : Node} (member : n ∈ (parse text).nodes)
    (kind : n.kind = .binaryExpr) :
    ∃ before symbol after op,
      Token.scan text = before ++ symbol :: (after ++ [.finish (Text.size text)]) ∧
        OperatorAt text n symbol after op := by
  have arises := parse_arises text n member
  have made := (parse_lawful text n member).rule_of_inner (by rw [kind]; rfl)
  rw [Node.Arises, kind] at arises
  obtain ⟨depth, op, left, s, leads, found, same⟩ := arises
  obtain ⟨symbol, after, next⟩ := Stream.rest_of_kind (Stream.kind_of_binaryOp? found)
  obtain ⟨before, whole⟩ := leads.suffix
  have written := (Stream.ofText_written text).later leads.suffix
  obtain ⟨right, children⟩ : ∃ right, n.children =
      left :: (s.leaf (.operator op)).1 :: (Parser.binModifiers s.advance).1 ++ [right] := by
    have inner := congrArg Node.children same
    simp only [Parser.binary, Node.wrap_children, List.cons.injEq, and_true] at inner
    exact ⟨_, congrArg Node.children inner⟩
  have kinds : left.kind = .expr ∧ OperandKind right.kind := by
    rw [kind, children] at made
    obtain ⟨op', modifiers, last, listed, operand⟩ := made.of_binaryExpr
    simp only [List.cons_append, List.map_cons, List.map_append, List.map_nil, List.cons.injEq]
      at listed
    obtain ⟨-, isLast⟩ := List.append_inj' listed.2.2 rfl
    exact ⟨listed.1, (List.cons.inj isLast).1 ▸ operand⟩
  have others : ∀ m ∈ [left, (s.leaf (.operator op)).1, right], m.kind ≠ .binModifiers := by
    simp only [List.forall_mem_cons]
    refine ⟨by simp [kinds.1], by simp, ?_, by simp⟩
    rcases kinds.2 with isRight | isRight <;> simp [isRight]
  refine ⟨before, symbol, after, op, ?_, ?_, ?_, s.advance, Stream.advance_rest next,
    written.advance, ?_⟩
  · rw [(Stream.ofText_tokens text).1, ← whole, next, List.append_assoc, List.cons_append]
  · simp only [Node.operator?, children, List.cons_append, List.findSome?_cons, kinds.1]
    rfl
  · simp [children, Stream.leaf, Stream.current_cons next]
  · rw [Node.child?, children, Parser.find?_binModifiers s.advance others]

end SyntaxTree

namespace Matching

/-- The labels are those of `on` where the modifiers have it. -/
theorem on_iff_hasModifier {text : Text} {n : Node} {m : Matching}
    (read : ofBinary? text n = some m) : m.on = true ↔ n.hasModifier .keywordOn = true := by
  obtain ⟨op, -, rfl⟩ := Option.map_eq_some_iff.mp read
  have same : ∀ (p : Prop) [Decidable p] (m : Matching) (card : Cardinality),
      (if p then { m with card := card } else m).on = m.on := by
    intro p _ m card
    split <;> rfl
  rw [same, ofModifiers, foldl_extend_on, Node.hasModifier, Node.at?_cons]
  cases n.child? .binModifiers with
  | none => simp
  | some modifiers => simp [Node.child?]

/-- A matching says what the tokens behind its operator ask for. -/
structure ReadsOff (m : Matching) (op : BinaryOp) (tokens : MatchingTokens) : Prop where
  on : m.on = true ↔ ∃ t, tokens.keyword = some t ∧ t.isKeyword "on" = true
  labels : m.labels = tokens.labels.filterMap Token.ident?
  included : m.included = tokens.included.filterMap Token.ident?
  card : m.card =
    if tokens.side.any (·.isKeyword "group_left") then .manyToOne
    else if tokens.side.any (·.isKeyword "group_right") then .oneToMany
    else if op = .and ∨ op = .or ∨ op = .unless then .manyToMany
    else .oneToOne

theorem ofBinary?_readsOff {text : Text} {n : Node} {symbol : Token} {after : List Token}
    {op : BinaryOp} (found : SyntaxTree.OperatorAt text n symbol after op) :
    ∃ m, ofBinary? text n = some m ∧ m.ReadsOff op (.read after) := by
  obtain ⟨s, rest, written, modifiers⟩ := found.modifiers
  have meaning := Parser.binModifiers_reads_off written
  rw [← modifiers, rest] at meaning
  have isSet : op.isSetOperator = true ↔ op = .and ∨ op = .or ∨ op = .unless := by
    cases op <;> simp [BinaryOp.isSetOperator]
  rw [ofBinary?, found.operator, Option.map_some, meaning]
  generalize MatchingTokens.read after = tokens
  have keyword : tokens.meaning.on = true ↔
      ∃ t, tokens.keyword = some t ∧ t.isKeyword "on" = true := by
    rw [MatchingTokens.meaning, Option.any_eq_true]
  refine ⟨_, rfl, ?_⟩
  -- Only the cardinality depends on the operator, and only where no side is named.
  dsimp only
  split
  · rename_i alone
    rw [Bool.and_eq_true, beq_iff_eq, isSet] at alone
    refine ⟨keyword, rfl, rfl, ?_⟩
    have sideless := alone.2
    rw [MatchingTokens.meaning] at sideless
    split at sideless
    · cases sideless
    · split at sideless
      · cases sideless
      · simp_all
  · rename_i other
    refine ⟨keyword, rfl, rfl, ?_⟩
    rw [Bool.and_eq_true, beq_iff_eq, isSet, not_and] at other
    rw [MatchingTokens.meaning] at other ⊢
    split
    · rfl
    · split
      · rfl
      · have arithmetic := fun set => other set (by simp_all)
        rw [if_neg arithmetic]

end Matching

/-- The two complaints about the pairing of a set operator are made about the same ranges. -/
theorem Node.Gathered.paired {source : Text} {n : Node} {ds : List Diagnostic}
    (gathered : Gathered source n ds) (m : Node) :
    m.problem "no grouping allowed for set operations" ∈ ds ↔
      m.problem "set operations must always be many-to-many" ∈ ds := by
  induction gathered with
  | nil => simp
  | append _ _ front back => rw [List.mem_append, List.mem_append, front, back]
  | @worded other message member free =>
    have apart : ∀ paired ∈ reserved, m.problem paired ∉ [other.problem message] := by
      intro paired listed said
      have same : paired = message := congrArg Diagnostic.message (List.mem_singleton.mp said)
      exact free (same ▸ listed)
    exact iff_of_false (apart _ (by simp [reserved])) (apart _ (by simp [reserved]))
  | @grouped other member => simp [problem]

namespace SyntaxTree

/-- The matching of every binary expression is what the tokens behind its operator ask for; so the
check says of one that it must not be grouped exactly where it says that it must pair many with
many. -/
theorem parse_matching (text : Text) {n : Node} (member : n ∈ (parse text).nodes)
    (kind : n.kind = .binaryExpr) :
    (∃ before symbol after op m,
      Token.scan text = before ++ symbol :: (after ++ [.finish (Text.size text)]) ∧
      n.children[1]? = some (.leaf (.operator op) symbol.start symbol.stop) ∧
      Matching.ofBinary? text n = some m ∧ m.ReadsOff op (.read after) ∧
      (m.on = true ↔ n.hasModifier .keywordOn = true)) ∧
    (n.problem "no grouping allowed for set operations" ∈ (parse text).check ↔
      n.problem "set operations must always be many-to-many" ∈ (parse text).check) := by
  constructor
  · obtain ⟨before, symbol, after, op, scanned, found⟩ := exists_operatorAt text member kind
    obtain ⟨m, read, readsOff⟩ := Matching.ofBinary?_readsOff found
    exact ⟨before, symbol, after, op, m, scanned, found.token, read, readsOff,
      Matching.on_iff_hasModifier read⟩
  · have said : ∀ message, message ≠ "unexpected expression" →
        (n.problem message ∈ (parse text).check ↔
          n.problem message ∈ (parse text).structuralProblems) := by
      intro message other
      rw [(check_perm _).mem_iff, List.mem_append]
      refine or_iff_left fun stray => other ?_
      exact (strayProblems_about text _ stray).1
    rw [said _ (by decide), said _ (by decide), structuralProblems]
    cases (parse text).root.first? with
    | none => simp
    | some top => exact (Node.problems_gathered text top).paired n

theorem parse_matching_grouped :
    ∃ n ∈ (parse "a and on group_left(y z) b".toList).nodes, n.kind = .binaryExpr ∧
      Matching.ofBinary? "a and on group_left(y z) b".toList n =
        some ⟨.manyToOne, [], true, ["y", "z"]⟩ ∧
      (n.problem "no grouping allowed for set operations" ∈
          (parse "a and on group_left(y z) b".toList).check ↔
        n.problem "set operations must always be many-to-many" ∈
          (parse "a and on group_left(y z) b".toList).check) := by
  have present : ((parse "a and on group_left(y z) b".toList).nodes.find? fun n =>
      n.kind == .binaryExpr && Matching.ofBinary? "a and on group_left(y z) b".toList n ==
        some ⟨.manyToOne, [], true, ["y", "z"]⟩).isSome = true := by
    decide +kernel
  obtain ⟨n, found⟩ := Option.isSome_iff_exists.mp present
  have member := List.mem_of_find?_eq_some found
  have both := List.find?_some found
  rw [Bool.and_eq_true, beq_iff_eq, beq_iff_eq] at both
  exact ⟨n, member, both.1, both.2, (parse_matching _ member both.1).2⟩

end SyntaxTree

end MetricQuery
