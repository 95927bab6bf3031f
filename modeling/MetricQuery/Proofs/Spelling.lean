import MetricQuery.Proofs.Phrase

/-!
Reading back what is written, up to where expressions start: labels, matchers, clauses and the
modifiers of operators. `Spells input kinds rest` says that the tokens before `rest` are of the
given kinds; `Gives` says what the parser makes of them.
-/

set_option autoImplicit false

namespace MetricQuery

theorem map_eq_map_of_forall₂ {α β γ : Type} {f : α → γ} {g : β → γ} {as : List α} {bs : List β}
    (same : List.Forall₂ (fun a b => f a = g b) as bs) : as.map f = bs.map g := by
  induction same with
  | nil => rfl
  | cons first _ ih => rw [List.map_cons, List.map_cons, first, ih]

/-- The kind of the first of some tokens; nothing but the end of input follows the last. -/
def Token.headKind : List Token → Token.Kind
  | [] => .endOfInput
  | t :: _ => t.kind

namespace Stream

theorem kind_eq (s : Stream) : s.kind = Token.headKind s.rest := by
  cases found : s.rest with
  | nil => exact kind_of_nil found
  | cons t rest => exact kind_of_rest found

theorem atKeyword_eq (s : Stream) (word : String) :
    s.atKeyword word = (Token.headKind s.rest).isWord word := by
  rw [← kind_eq, kind, atKeyword, Token.isKeyword]
  cases s.current.kind <;> rfl

theorem binaryOp?_eq (s : Stream) : s.binaryOp? = (Token.headKind s.rest).binaryOp? := by
  have same : ∀ word, s.atKeyword word =
      (Stream.mk [⟨Token.headKind s.rest, ⟨0, 0⟩⟩] 0 0).atKeyword word := by
    intro word
    rw [atKeyword_eq, atKeyword_eq]
    rfl
  simp only [Token.Kind.binaryOp?, binaryOp?, kind_eq s, same]
  rfl

theorem advance_rest {s : Stream} {t : Token} {more : List Token} (next : s.rest = t :: more) :
    s.advance.rest = more := by
  rw [advance_cons next]

theorem skip_rest {s : Stream} {t : Token} {more : List Token} (next : s.rest = t :: more) :
    (s.skip t.kind).rest = more := by
  rw [skip, if_pos (kind_of_rest next), advance_rest next]

theorem skip_suffix (s : Stream) (kind : Token.Kind) : (s.skip kind).rest <:+ s.rest := by
  rw [skip]
  split
  · rw [rest_advance]
    exact List.tail_suffix s.rest
  · exact List.suffix_refl s.rest

theorem skip_of_ne {s : Stream} {kind : Token.Kind} (different : Token.headKind s.rest ≠ kind) :
    s.skip kind = s := by
  rw [skip, kind_eq, if_neg different]

end Stream

/-- The tokens of `input` before `rest` have these kinds. -/
def Spells (input : List Token) (kinds : List Token.Kind) (rest : List Token) : Prop :=
  ∃ ts, input = ts ++ rest ∧ ts.map Token.kind = kinds

namespace Spells

variable {input rest : List Token}

theorem nil_iff : Spells input [] rest ↔ input = rest := by
  constructor
  · rintro ⟨ts, rfl, none⟩
    rw [List.map_eq_nil_iff.mp none, List.nil_append]
  · rintro rfl
    exact ⟨[], rfl, rfl⟩

theorem cons_iff {kind : Token.Kind} {kinds : List Token.Kind} :
    Spells input (kind :: kinds) rest ↔
      ∃ t more, input = t :: more ∧ t.kind = kind ∧ Spells more kinds rest := by
  constructor
  · rintro ⟨ts, rfl, same⟩
    obtain ⟨t, more, rfl, first, tail⟩ := List.map_eq_cons_iff.mp same
    exact ⟨t, more ++ rest, rfl, first, more, rfl, tail⟩
  · rintro ⟨t, more, rfl, rfl, ts, rfl, rfl⟩
    exact ⟨t :: ts, rfl, rfl⟩

theorem append_iff {front back : List Token.Kind} :
    Spells input (front ++ back) rest ↔
      ∃ middle, Spells input front middle ∧ Spells middle back rest := by
  constructor
  · rintro ⟨ts, rfl, same⟩
    obtain ⟨first, next, rfl, first_kinds, next_kinds⟩ := List.map_eq_append_iff.mp same
    exact ⟨next ++ rest, ⟨first, List.append_assoc .., first_kinds⟩, next, rfl, next_kinds⟩
  · rintro ⟨middle, ⟨first, rfl, rfl⟩, next, rfl, rfl⟩
    exact ⟨first ++ next, (List.append_assoc ..).symm, List.map_append⟩

theorem length_eq {kinds : List Token.Kind} (spelled : Spells input kinds rest) :
    input.length = kinds.length + rest.length := by
  obtain ⟨ts, rfl, rfl⟩ := spelled
  rw [List.length_append, List.length_map]

theorem headKind {kind : Token.Kind} {kinds : List Token.Kind}
    (spelled : Spells input (kind :: kinds) rest) : Token.headKind input = kind := by
  obtain ⟨t, more, rfl, same, -⟩ := cons_iff.mp spelled
  exact same

theorem length_lt {kind : Token.Kind} {kinds : List Token.Kind}
    (spelled : Spells input (kind :: kinds) rest) : rest.length < input.length := by
  have same := spelled.length_eq
  rw [List.length_cons] at same
  omega

/-- The first item of a list, and the others behind the comma after it. -/
theorem closed_cons {close : Token.Kind} {item : List Token.Kind} {items : List (List Token.Kind)}
    (different : close ≠ .comma)
    (spelled : Spells input (Phrase.closed close (item :: items)) rest) :
    ∃ middle, Spells input item middle ∧ ∀ s : Stream, s.rest = middle →
      Spells (s.skip .comma).rest (Phrase.closed close items) rest := by
  cases items with
  | nil =>
    obtain ⟨middle, first, last⟩ := append_iff.mp spelled
    refine ⟨middle, first, ?_⟩
    rintro s rfl
    obtain ⟨t, more, next, same, -⟩ := cons_iff.mp last
    rw [Stream.skip_of_ne]
    · exact last
    · rw [next, Token.headKind, same]
      exact different
  | cons second items =>
    obtain ⟨middle, first, later⟩ := append_iff.mp spelled
    obtain ⟨t, more, next, same, last⟩ := cons_iff.mp later
    refine ⟨middle, first, ?_⟩
    rintro s rfl
    rwa [← same, Stream.skip_rest next]

end Spells

namespace Phrase

/-- A list has more tokens than items, if each item has one. -/
theorem length_lt_closed (close : Token.Kind) (items : List (List Token.Kind))
    (some_token : ∀ item ∈ items, item ≠ []) : items.length < (closed close items).length := by
  fun_induction closed close items with
  | case1 => exact Nat.one_pos
  | case2 item =>
    have first := List.length_pos_iff.mpr (some_token item (by simp))
    simp only [List.length_append, List.length_cons, List.length_nil]
    omega
  | case3 item second items ih =>
    have later := ih fun other member => some_token other (List.mem_cons_of_mem _ member)
    simp only [List.length_append, List.length_cons] at later ⊢
    omega

/-- Two words that no spelling confuses. -/
theorem sameLetters_of_ne {text word other : Text} (spells : Text.sameLetters text word = true)
    (distinct : Text.sameLetters word other = false) : Text.sameLetters text other = false := by
  simp only [Text.sameLetters, beq_iff_eq, beq_eq_false_iff_ne] at spells distinct ⊢
  rwa [spells]

theorem Keyword.isWord {word : String} (keyword : Keyword word) :
    (Token.Kind.ident keyword.text).isWord word = true := keyword.spells

theorem Keyword.isWord_of_ne {word : String} (keyword : Keyword word) {other : String}
    (distinct : Text.sameLetters word.toList other.toList = false) :
    (Token.Kind.ident keyword.text).isWord other = false :=
  sameLetters_of_ne keyword.spells distinct

theorem Name.isWord_of_reserved (name : Name) {word : String} (found : word ∈ reserved) :
    name.kind.isWord word = false := name.free word found

/-- Words that a modifier of an operator may start with. -/
def modifierWords : List String := ["bool", "on", "ignoring", "group_left", "group_right"]

variable {one other : String} (choice : Choice one other)

/-- Asking for the first of two keywords tells which of them it is. -/
theorem Choice.pick_eq (distinct : Text.sameLetters other.toList one.toList = false)
    (first second : NodeKind) :
    (if choice.kind.isWord one then first else second) = choice.pick first second := by
  cases choice with
  | one word => exact if_pos word.isWord
  | other word => exact if_neg (by simp [Choice.kind, word.isWord_of_ne distinct])

theorem Choice.pick?_eq (distinct : Text.sameLetters other.toList one.toList = false)
    (first second : NodeKind) :
    (if choice.kind.isWord one then some first
      else if choice.kind.isWord other then some second else none) =
        some (choice.pick first second) := by
  cases choice with
  | one word => exact if_pos word.isWord
  | other word =>
    rw [if_neg (by simp [Choice.kind, word.isWord_of_ne distinct])]
    exact if_pos word.isWord

end Phrase

namespace Parser

open Phrase

/-- A node of a shape was read, and `rest` is left. -/
structure Gives (result : Node × Stream) (shape : Shape) (rest : List Token) : Prop where
  shape : result.1.shape = shape
  rest : result.2.rest = rest

/-- Nodes of these shapes were read, and `rest` is left. -/
structure GivesAll (result : List Node × Stream) (shapes : List Shape) (rest : List Token) :
    Prop where
  shapes : result.1.map Node.shape = shapes
  rest : result.2.rest = rest

/-- Items of these shapes were read, nothing stray among them, and `rest` is left. -/
structure GivesItems (result : List Part × Stream) (shapes : List Shape) (rest : List Token) :
    Prop where
  items : ∃ items : List Node, result.1 = items.map .item ∧ items.map Node.shape = shapes
  rest : result.2.rest = rest

theorem leaf_gives {s : Stream} {t : Token} {more : List Token} (kind : NodeKind)
    (next : s.rest = t :: more) : Gives (s.leaf kind) (.leaf kind) more :=
  ⟨rfl, Stream.advance_rest next⟩

theorem GivesItems.cons {result : List Part × Stream} {shapes : List Shape} {rest : List Token}
    (later : GivesItems result shapes rest) (n : Node) :
    GivesItems (.item n :: result.1, result.2) (n.shape :: shapes) rest := by
  obtain ⟨items, same, rfl⟩ := later.items
  exact ⟨⟨n :: items, by rw [same]; rfl, rfl⟩, later.rest⟩

/-- The node of a list that was read without anything stray. -/
theorem GivesItems.bracketed {result : List Part × Stream} {shapes : List Shape}
    {rest : List Token} (read : GivesItems result shapes rest) (body list : NodeKind)
    (start stop : Nat) :
    (Node.branch body start stop (listChildren list result.1)).shape =
      .bracketed body list shapes := by
  obtain ⟨items, same, rfl⟩ := read.items
  rw [Node.shape_branch, same, listChildren_shape]
  rfl

theorem groupingParts_gives (labels : List Name) {steps : Nat} (enough : labels.length < steps)
    {s : Stream} {rest : List Token}
    (spelled : Spells s.rest (closed .rightParen (labels.map fun label => [label.kind])) rest) :
    GivesItems (groupingParts steps s)
      (labels.map fun _ => .mk .groupingLabel [.leaf .labelName]) rest := by
  induction labels generalizing s steps with
  | nil =>
    obtain ⟨steps, rfl⟩ := Nat.exists_eq_succ_of_ne_zero (Nat.ne_of_gt enough)
    obtain ⟨t, more, next, same, last⟩ := Spells.cons_iff.mp spelled
    obtain rfl := Spells.nil_iff.mp last
    have closes : s.kind = .rightParen := by rw [Stream.kind_of_rest next, same]
    simp only [groupingParts, closes]
    exact ⟨⟨[], rfl, rfl⟩, Stream.advance_rest next⟩
  | cons label labels ih =>
    obtain ⟨steps, rfl⟩ := Nat.exists_eq_succ_of_ne_zero (Nat.ne_of_gt (Nat.zero_lt_of_lt enough))
    obtain ⟨middle, first, later⟩ := Spells.closed_cons (by simp) spelled
    obtain ⟨t, more, next, same, last⟩ := Spells.cons_iff.mp first
    obtain rfl := Spells.nil_iff.mp last
    have isName : s.kind = .ident label.text := by rw [Stream.kind_of_rest next, same]; rfl
    have tail := ih (Nat.lt_of_succ_lt_succ enough) (later s.advance (Stream.advance_rest next))
    simp only [groupingParts, isName]
    exact tail.cons (.wrap .groupingLabel (s.leaf .labelName).1)

theorem groupingLabels_gives (labels : List Name) {s : Stream} {rest : List Token}
    (spelled : Spells s.rest (labelKinds labels) rest) :
    Gives (groupingLabels s) (labelShape labels) rest := by
  obtain ⟨t, more, next, -, inner⟩ := Spells.cons_iff.mp spelled
  have tokens := length_lt_closed .rightParen (labels.map fun label => [label.kind]) (by simp)
  have longer := inner.length_eq
  rw [← Stream.advance_rest next] at inner longer
  have enough : labels.length < s.advance.rest.length := by
    rw [List.length_map] at tokens
    omega
  have parts := groupingParts_gives labels enough inner
  exact ⟨parts.bracketed .groupingLabels .groupingLabelList _ _, parts.rest⟩

theorem expectGroupingLabels_gives (labels : List Name) {s : Stream} {rest : List Token}
    (spelled : Spells s.rest (labelKinds labels) rest) :
    Gives (expectGroupingLabels s) (labelShape labels) rest := by
  obtain ⟨t, more, next, same, -⟩ := Spells.cons_iff.mp spelled
  rw [expectGroupingLabels, if_pos (by rw [Stream.kind_of_rest next, same])]
  exact groupingLabels_gives labels spelled

theorem matchOp?_symbol {s : Stream} {op : MatchOp} (same : s.kind = symbol op) :
    s.matchOp? = some op := by
  cases op <;> simp only [Stream.matchOp?, same, symbol]

/-- A label, an operator and a string are read as the three children of a matcher. -/
theorem labelMatcher_eq {s : Stream} {t u v : Token} {more : List Token} {op : MatchOp}
    {raw : String} {terminated : Bool} (next : s.rest = t :: u :: v :: more)
    (isSymbol : u.kind = symbol op) (isValue : v.kind = .string raw terminated) :
    labelMatcher s =
      (.branch .labelMatcher t.start (Node.leaf .labelName t.start t.stop).stop
        [.leaf .labelName t.start t.stop, .wrap .matchOp (.leaf (.matchSymbol op) u.start u.stop),
          .leaf .stringLiteral v.start v.stop], ⟨more, s.finish, v.stop⟩) := by
  have compares : (Stream.mk (u :: v :: more) s.finish t.stop).matchOp? = some op :=
    matchOp?_symbol isSymbol
  have current := Stream.current_cons next
  simp only [labelMatcher, comparison, Stream.leaf, Stream.advance_cons next, current, compares]
  have value : (Stream.mk (u :: v :: more) s.finish t.stop).advance.kind =
      .string raw terminated := isValue
  simp only [matcherValue, value, Stream.leaf]
  rfl

theorem labelMatcher_gives (m : Condition) {s : Stream} {rest : List Token}
    (spelled : Spells s.rest m.kinds rest) : Gives (labelMatcher s) m.shape rest := by
  obtain ⟨t, more, atLabel, -, later⟩ := Spells.cons_iff.mp spelled
  obtain ⟨u, more', rfl, isSymbol, later⟩ := Spells.cons_iff.mp later
  obtain ⟨v, more'', rfl, isValue, last⟩ := Spells.cons_iff.mp later
  obtain rfl := Spells.nil_iff.mp last
  rw [labelMatcher_eq atLabel isSymbol isValue]
  exact ⟨by simp [Condition.shape], rfl⟩

section Matchers

/- Matchers that are written as `kinds` says, by tokens that are all `good`, are read as nodes that
stand for them. -/
variable {α : Type} {kinds : α → List Token.Kind} (good : Token → Prop)
  (standsFor : α → Node → Prop)
  (each : ∀ a (s : Stream) rest, (∀ t ∈ s.rest, good t) → Spells s.rest (kinds a) rest →
    (∃ name, s.kind = .ident name) ∧ standsFor a (labelMatcher s).1 ∧
      (labelMatcher s).2.rest = rest)

include each

theorem matcherParts_each (as : List α) {steps : Nat} (enough : as.length < steps) {s : Stream}
    {rest : List Token} (all : ∀ t ∈ s.rest, good t)
    (spelled : Spells s.rest (closed .rightBrace (as.map kinds)) rest) :
    ∃ items : List Node, (matcherParts steps s).1 = items.map .item ∧
      List.Forall₂ standsFor as items ∧ (matcherParts steps s).2.rest = rest := by
  induction as generalizing s steps with
  | nil =>
    obtain ⟨steps, rfl⟩ := Nat.exists_eq_succ_of_ne_zero (Nat.ne_of_gt enough)
    obtain ⟨t, more, next, same, last⟩ := Spells.cons_iff.mp spelled
    obtain rfl := Spells.nil_iff.mp last
    have closes : s.kind = .rightBrace := by rw [Stream.kind_of_rest next, same]
    simp only [matcherParts, closes]
    exact ⟨[], rfl, .nil, Stream.advance_rest next⟩
  | cons a as ih =>
    obtain ⟨steps, rfl⟩ := Nat.exists_eq_succ_of_ne_zero (Nat.ne_of_gt (Nat.zero_lt_of_lt enough))
    obtain ⟨middle, first, later⟩ := Spells.closed_cons (by simp) spelled
    obtain ⟨⟨name, isName⟩, matcher, left⟩ := each a s middle all first
    have suffix := later (labelMatcher s).2 left
    have fewer : ∀ t ∈ ((labelMatcher s).2.skip .comma).rest, good t := by
      obtain ⟨front, same, -⟩ := first
      intro t member
      apply all
      rw [same]
      apply List.mem_append_right
      rw [← left]
      exact (Stream.skip_suffix _ _).subset member
    obtain ⟨items, read, stand, done⟩ := ih (Nat.lt_of_succ_lt_succ enough) fewer suffix
    simp only [matcherParts, isName]
    exact ⟨(labelMatcher s).1 :: items, by rw [read]; rfl, .cons matcher stand, done⟩

theorem labelMatchers_each (as : List α) {s : Stream} {rest : List Token}
    (written : ∀ a ∈ as, kinds a ≠ []) (all : ∀ t ∈ s.rest, good t)
    (spelled : Spells s.rest (.leftBrace :: closed .rightBrace (as.map kinds)) rest) :
    ∃ items : List Node, (∃ start stop, (labelMatchers s).1 =
        .branch .labelMatchers start stop (chain .labelMatchList items).toList) ∧
      List.Forall₂ standsFor as items ∧ (labelMatchers s).2.rest = rest := by
  obtain ⟨t, more, next, -, inner⟩ := Spells.cons_iff.mp spelled
  have tokens := length_lt_closed .rightBrace (as.map kinds) (by simpa using written)
  have longer := inner.length_eq
  rw [← Stream.advance_rest next] at inner longer
  have enough : as.length < s.advance.rest.length := by
    rw [List.length_map] at tokens
    omega
  have fewer : ∀ t ∈ s.advance.rest, good t := by
    intro t member
    rw [Stream.rest_advance] at member
    exact all t (List.mem_of_mem_tail member)
  obtain ⟨items, read, stand, done⟩ := matcherParts_each good standsFor each as enough fewer inner
  refine ⟨items, ⟨s.current.start, (labelMatchers s).2.last, ?_⟩, stand, done⟩
  rw [← listChildren_items, ← read]
  rfl

end Matchers

theorem labelMatchers_gives (matchers : List Condition) {s : Stream} {rest : List Token}
    (spelled : Spells s.rest (matcherKinds matchers) rest) :
    Gives (labelMatchers s) (matcherShape matchers) rest := by
  have each : ∀ (m : Condition) (s : Stream) rest, (∀ t ∈ s.rest, True) →
      Spells s.rest m.kinds rest → (∃ name, s.kind = .ident name) ∧
        m.shape = (labelMatcher s).1.shape ∧ (labelMatcher s).2.rest = rest := by
    intro m s rest _ spelled
    have read := labelMatcher_gives m spelled
    refine ⟨⟨m.label.text, ?_⟩, read.shape.symm, read.rest⟩
    rw [Stream.kind_eq, spelled.headKind]
    rfl
  obtain ⟨items, ⟨start, stop, same⟩, stand, done⟩ :=
    labelMatchers_each (fun _ => True) (fun m n => m.shape = n.shape) each matchers
      (by simp [Condition.kinds]) (fun _ _ => trivial) spelled
  refine ⟨?_, done⟩
  rw [same, Node.shape_branch, matcherShape, map_eq_map_of_forall₂ stand, Shape.bracketed,
    ← chain_shape]
  cases chain .labelMatchList items <;> rfl

/-- A keyword and the labels behind it. -/
theorem clause_gives {one other : String} (clause : Clause one other) (kind : NodeKind) {s : Stream}
    {rest : List Token} (spelled : Spells s.rest clause.kinds rest) :
    Token.headKind s.rest = clause.word.kind ∧
      Spells (s.leaf kind).2.rest (labelKinds clause.labels) rest := by
  obtain ⟨t, more, next, same, labels⟩ := Spells.cons_iff.mp spelled
  refine ⟨by rw [next]; exact same, ?_⟩
  rwa [(leaf_gives kind next).rest]

theorem aggregateModifier_gives (clause : Clause "by" "without") {s : Stream} {rest : List Token}
    (spelled : Spells s.rest clause.kinds rest) :
    Gives (aggregateModifier s) (.mk .aggregateModifier (clause.shapes .keywordBy .keywordWithout))
      rest := by
  obtain ⟨head, later⟩ := clause_gives clause
    (if s.atKeyword "by" then .keywordBy else .keywordWithout) spelled
  have labels := expectGroupingLabels_gives clause.labels later
  have picked : (if s.atKeyword "by" then NodeKind.keywordBy else .keywordWithout) =
      clause.word.pick .keywordBy .keywordWithout := by
    rw [Stream.atKeyword_eq, head]
    exact clause.word.pick_eq (by decide) _ _
  refine ⟨?_, labels.rest⟩
  simp only [aggregateModifier, Node.shape_branch, List.map_cons, List.map_nil, labels.shape]
  simp only [Stream.leaf, Node.shape_leaf, picked, Clause.shapes]

theorem groupClause_gives (group : Option (Clause "group_left" "group_right")) {s : Stream}
    {rest : List Token} (spelled : Spells s.rest ((group.map Clause.kinds).getD []) rest)
    (follow : ∀ word ∈ modifierWords, (Token.headKind rest).isWord word = false) :
    GivesAll (groupClause s)
      ((group.map (Clause.shapes .keywordGroupLeft .keywordGroupRight)).getD []) rest := by
  cases group with
  | none =>
    obtain rfl := Spells.nil_iff.mp spelled
    have left : s.atKeyword "group_left" = false := by
      rw [Stream.atKeyword_eq]
      exact follow _ (by simp [modifierWords])
    have right : s.atKeyword "group_right" = false := by
      rw [Stream.atKeyword_eq]
      exact follow _ (by simp [modifierWords])
    simp only [groupClause, left, right, Bool.false_eq_true, if_false]
    exact ⟨rfl, rfl⟩
  | some clause =>
    obtain ⟨head, later⟩ := clause_gives clause
      (clause.word.pick .keywordGroupLeft .keywordGroupRight) spelled
    have labels := groupingLabels_gives clause.labels later
    have picked : (if s.atKeyword "group_left" then some NodeKind.keywordGroupLeft
        else if s.atKeyword "group_right" then some .keywordGroupRight else none) =
        some (clause.word.pick .keywordGroupLeft .keywordGroupRight) := by
      rw [Stream.atKeyword_eq, Stream.atKeyword_eq, head]
      exact clause.word.pick?_eq (by decide) _ _
    have opens : (s.leaf (clause.word.pick .keywordGroupLeft .keywordGroupRight)).2.kind =
        .leftParen := by
      obtain ⟨t, more, next, same, -⟩ := Spells.cons_iff.mp later
      rw [Stream.kind_of_rest next, same]
    simp only [groupClause, picked, opens, if_true]
    refine ⟨?_, labels.rest⟩
    simp only [List.map_cons, List.map_nil, labels.shape]
    rfl

theorem matchingClause_gives (pairing : Option Pairing) {s : Stream} {rest : List Token}
    (spelled : Spells s.rest ((pairing.map Pairing.kinds).getD []) rest)
    (follow : ∀ word ∈ modifierWords, (Token.headKind rest).isWord word = false) :
    GivesAll (matchingClause s) ((pairing.map Pairing.shapes).getD []) rest := by
  cases pairing with
  | none =>
    obtain rfl := Spells.nil_iff.mp spelled
    have on : s.atKeyword "on" = false := by
      rw [Stream.atKeyword_eq]
      exact follow _ (by simp [modifierWords])
    have ignoring : s.atKeyword "ignoring" = false := by
      rw [Stream.atKeyword_eq]
      exact follow _ (by simp [modifierWords])
    simp only [matchingClause, on, ignoring, Bool.false_eq_true, if_false]
    exact ⟨rfl, rfl⟩
  | some pairing =>
    obtain ⟨middle, first, last⟩ := Spells.append_iff.mp spelled
    obtain ⟨head, later⟩ := clause_gives pairing.on
      (pairing.on.word.pick .keywordOn .keywordIgnoring) first
    have labels := expectGroupingLabels_gives pairing.on.labels later
    have picked : (if s.atKeyword "on" then some NodeKind.keywordOn
        else if s.atKeyword "ignoring" then some .keywordIgnoring else none) =
        some (pairing.on.word.pick .keywordOn .keywordIgnoring) := by
      rw [Stream.atKeyword_eq, Stream.atKeyword_eq, head]
      exact pairing.on.word.pick?_eq (by decide) _ _
    rw [← labels.rest] at last
    have group := groupClause_gives pairing.group last follow
    simp only [matchingClause, picked]
    refine ⟨?_, group.rest⟩
    simp only [List.map_cons, labels.shape, group.shapes]
    rfl

theorem boolFlag_gives (flag : Option (Keyword "bool")) {s : Stream} {rest : List Token}
    (spelled : Spells s.rest (flag.map fun word => .ident word.text).toList rest)
    (follow : (Token.headKind rest).isWord "bool" = false) :
    GivesAll (boolFlag s) (flag.map fun _ => .leaf .keywordBool).toList rest := by
  cases flag with
  | none =>
    obtain rfl := Spells.nil_iff.mp spelled
    rw [boolFlag, Stream.atKeyword_eq, follow]
    exact ⟨rfl, rfl⟩
  | some word =>
    obtain ⟨t, more, next, same, last⟩ := Spells.cons_iff.mp spelled
    obtain rfl := Spells.nil_iff.mp last
    have found : s.atKeyword "bool" = true := by
      rw [Stream.atKeyword_eq, next, Token.headKind, same]
      exact word.isWord
    rw [boolFlag, if_pos found]
    exact ⟨rfl, Stream.advance_rest next⟩

/-- What pairs the sides of an operator is no flag. -/
theorem pairing_head (pairing : Option Pairing) {input rest : List Token}
    (spelled : Spells input ((pairing.map Pairing.kinds).getD []) rest)
    (follow : (Token.headKind rest).isWord "bool" = false) :
    (Token.headKind input).isWord "bool" = false := by
  cases pairing with
  | none => rwa [Spells.nil_iff.mp spelled]
  | some pairing =>
    obtain ⟨middle, first, -⟩ := Spells.append_iff.mp spelled
    obtain ⟨t, more, rfl, same, -⟩ := Spells.cons_iff.mp first
    rw [Token.headKind, same]
    cases pairing.on.word with
    | one word => exact word.isWord_of_ne (by decide)
    | other word => exact word.isWord_of_ne (by decide)

theorem binModifiers_gives (m : Modifiers) {s : Stream} {rest : List Token}
    (spelled : Spells s.rest m.kinds rest)
    (follow : ∀ word ∈ modifierWords, (Token.headKind rest).isWord word = false) :
    GivesAll (binModifiers s) m.shapes rest := by
  obtain ⟨middle, first, last⟩ := Spells.append_iff.mp spelled
  have flag := boolFlag_gives m.bool first
    (pairing_head m.pairing last (follow _ (by simp [modifierWords])))
  rw [← flag.rest] at last
  have pairing := matchingClause_gives m.pairing last follow
  have parts : ((boolFlag s).1 ++ (matchingClause (boolFlag s).2).1).map Node.shape = m.parts := by
    rw [List.map_append, flag.shapes, pairing.shapes]
    rfl
  rw [Modifiers.shapes, ← parts]
  simp only [binModifiers]
  split
  · rename_i none
    rw [none]
    exact ⟨rfl, pairing.rest⟩
  · rename_i node more some_node
    rw [some_node]
    exact ⟨by simp, pairing.rest⟩

end Parser

end MetricQuery
