import MetricQuery.Proofs.ReadingExpr
import MetricQuery.Proofs.Spelling
import MetricQuery.Proofs.TokenRange

/-!
Every phrase can be read back. The parser never looks more than a token past a phrase, so what it
makes of one depends on what follows only by its first token; and an operand is taken by the
operator next to it exactly when precedence says so.
-/

set_option autoImplicit false

namespace MetricQuery

namespace Token.Kind

/-- Kinds that end every expression. -/
def endsExpr : Kind → Bool
  | .rightParen | .comma | .endOfInput => true
  | _ => false

/-- Kinds that may follow an operand. -/
def endsOperand (kind : Kind) : Bool :=
  kind.endsExpr || kind == .leftBracket || kind.isWord "offset" || kind.binaryOp?.isSome

theorem endsOperand_of_endsExpr {kind : Kind} (ends : kind.endsExpr = true) :
    kind.endsOperand = true := by
  simp [endsOperand, ends]

theorem endsOperand_of_binaryOp? {kind : Kind} {op : BinaryOp} (found : kind.binaryOp? = some op) :
    kind.endsOperand = true := by
  simp [endsOperand, found]

/-- A word that is an operator is one of three. -/
theorem word_of_binaryOp? {name : String} (found : (Kind.ident name).binaryOp?.isSome = true) :
    ∃ word ∈ ["and", "or", "unless"], Text.sameLetters name.toList word.toList = true := by
  by_cases isAnd : (Kind.ident name).isWord "and" = true
  · exact ⟨"and", by simp, isAnd⟩
  by_cases isOr : (Kind.ident name).isWord "or" = true
  · exact ⟨"or", by simp, isOr⟩
  by_cases isUnless : (Kind.ident name).isWord "unless" = true
  · exact ⟨"unless", by simp, isUnless⟩
  have none : (Kind.ident name).binaryOp? = none := by
    simp only [binaryOp?, Stream.binaryOp?, Stream.kind_cons, Stream.atKeyword_eq, headKind, isAnd,
      isOr, isUnless, Bool.false_eq_true, if_false]
  rw [none] at found
  cases found

theorem isWord_offset_of_binaryOp? {kind : Kind} {op : BinaryOp}
    (found : kind.binaryOp? = some op) :
    kind.isWord "offset" = false := by
  cases kind with
  | ident name =>
    obtain ⟨word, member, same⟩ := word_of_binaryOp? (Option.isSome_of_mem found)
    have distinct : ∀ word ∈ ["and", "or", "unless"],
        Text.sameLetters word.toList "offset".toList = false := by decide
    exact Phrase.sameLetters_of_ne same (distinct word member)
  | _ => rfl

/-- What follows an operand starts no grouping. -/
theorem isWord_of_endsOperand {kind : Kind} (ends : kind.endsOperand = true) {word : String}
    (grouping : word = "by" ∨ word = "without") : kind.isWord word = false := by
  cases kind with
  | ident name =>
    have spelled : ∃ other ∈ ["offset", "and", "or", "unless"],
        Text.sameLetters name.toList other.toList = true := by
      simp only [endsOperand, endsExpr, Bool.false_or, Bool.or_eq_true] at ends
      rcases ends with (bracket | offset) | operator
      · cases bracket
      · exact ⟨"offset", by simp, offset⟩
      · obtain ⟨other, member, same⟩ := word_of_binaryOp? operator
        exact ⟨other, List.mem_cons_of_mem _ member, same⟩
    have distinct : ∀ other ∈ ["offset", "and", "or", "unless"],
        Text.sameLetters other.toList word.toList = false := by
      rcases grouping with rfl | rfl <;> decide
    obtain ⟨other, member, same⟩ := spelled
    exact Phrase.sameLetters_of_ne same (distinct other member)
  | _ => rfl

end Token.Kind

namespace Stream

theorem second_kind {s : Stream} {t : Token} {more : List Token} (next : s.rest = t :: more) :
    s.second.kind = Token.headKind more := by
  rw [second, next]
  cases more <;> rfl

theorem second_isKeyword {s : Stream} {t : Token} {more : List Token} (next : s.rest = t :: more)
    (word : String) : s.second.isKeyword word = (Token.headKind more).isWord word := by
  rw [← second_kind next, Token.isKeyword]
  cases s.second.kind <;> rfl

/-- An identifier after an operand goes on with the expression around it. -/
theorem atStrayIdent_of_endsOperand {s : Stream}
    (ends : (Token.headKind s.rest).endsOperand = true) : s.atStrayIdent = false := by
  have operator := binaryOp?_eq s
  have offset := atKeyword_eq s "offset"
  have same : s.current.kind = Token.headKind s.rest := kind_eq s
  rw [atStrayIdent, operator, offset, Token.ident?, same]
  generalize Token.headKind s.rest = kind at ends
  cases kind with
  | ident name =>
    simp only [Token.Kind.endsOperand, Token.Kind.endsExpr, Bool.false_or, Bool.or_eq_true] at ends
    rcases ends with (bracket | word) | found
    · cases bracket
    · simp [word]
    · simp [Option.isNone_eq_false_iff.mpr found]
  | _ => rfl

theorem atGrouping_of_endsOperand {s : Stream}
    (ends : (Token.headKind s.rest).endsOperand = true) : s.atGrouping = false := by
  rw [atGrouping, atKeyword_eq, atKeyword_eq,
    Token.Kind.isWord_of_endsOperand ends (.inl rfl),
    Token.Kind.isWord_of_endsOperand ends (.inr rfl)]
  rfl

end Stream

namespace Phrase

/-- A phrase whose operator, if any is on top, binds at least as tight as `least`. -/
def bindsAtLeast (least : Nat) (e : Phrase) : Bool := e.top?.all fun q => least ≤ q.precedence

theorem nesting_pos (e : Phrase) : 0 < e.nesting := by
  match e with
  | number _ | constant _ | string _ | metric _ | selector _ _ => simp [nesting]
  | call _ _ | aggregate _ _ _ | paren _ | unary _ _ => simp [nesting]
  | range operand _ | subquery operand _ _ | offset operand _ _ _ =>
    rw [nesting]
    exact nesting_pos operand
  | binary left _ _ right =>
    rw [nesting]
    omega

/-- The aggregation of a name is spelled by the name. -/
theorem AggregatorName.spells (name : AggregatorName) :
    Text.sameLetters name.text.toList name.op.name.toList = true := by
  have found := List.find?_some name.known
  simp only [Text.sameLetters, beq_iff_eq] at found ⊢
  exact found.symm

/-- How the first token of a phrase looks. -/
structure StartsPhrase (kind : Token.Kind) : Prop where
  starts : ∀ s : Stream, s.kind = kind → s.startsExpr = true
  modifies : ∀ word ∈ modifierWords, kind.isWord word = false

theorem startsPhrase_ident {name : String}
    (modifies : ∀ word ∈ modifierWords, Text.sameLetters name.toList word.toList = false) :
    StartsPhrase (.ident name) :=
  ⟨fun s same => by rw [Stream.startsExpr, same], modifies⟩

theorem Name.startsPhrase (name : Name) : StartsPhrase name.kind := by
  refine startsPhrase_ident fun word member => name.free word ?_
  revert word
  decide

theorem Choice.startsPhrase (word : Choice "inf" "nan") : StartsPhrase word.kind := by
  have distinct : ∀ other ∈ modifierWords, Text.sameLetters "inf".toList other.toList = false ∧
      Text.sameLetters "nan".toList other.toList = false := by decide
  cases word with
  | one word =>
    exact startsPhrase_ident fun other member => word.isWord_of_ne (distinct other member).1
  | other word =>
    exact startsPhrase_ident fun other member => word.isWord_of_ne (distinct other member).2

theorem AggregatorName.startsPhrase (name : AggregatorName) : StartsPhrase (.ident name.text) := by
  have distinct : ∀ word ∈ modifierWords,
      Text.sameLetters name.op.name.toList word.toList = false := by
    cases name.op <;> decide
  exact startsPhrase_ident fun word member => sameLetters_of_ne name.spells (distinct word member)

/-- A phrase starts as an expression does, and never like a modifier of an operator. -/
theorem startsPhrase_kinds (e : Phrase) :
    ∃ kind more, e.kinds = kind :: more ∧ StartsPhrase kind := by
  have plain : ∀ {kind : Token.Kind}, (∀ s : Stream, s.kind = kind → s.startsExpr = true) →
      (∀ name, kind ≠ .ident name) → StartsPhrase kind := by
    intro kind starts symbol
    refine ⟨starts, fun word _ => ?_⟩
    cases kind <;> first | rfl | exact absurd rfl (symbol _)
  match e with
  | number text =>
    exact ⟨_, _, rfl, plain (fun s same => by rw [Stream.startsExpr, same]) (by simp)⟩
  | constant word => exact ⟨_, _, rfl, word.startsPhrase⟩
  | string raw => exact ⟨_, _, rfl, plain (fun s same => by rw [Stream.startsExpr, same]) (by simp)⟩
  | metric name => exact ⟨_, _, rfl, name.startsPhrase⟩
  | selector none matchers =>
    exact ⟨_, _, rfl, plain (fun s same => by rw [Stream.startsExpr, same]) (by simp)⟩
  | selector (some name) matchers => exact ⟨_, _, rfl, name.startsPhrase⟩
  | call name args => exact ⟨_, _, rfl, name.toName.startsPhrase⟩
  | aggregate name grouping args => exact ⟨_, _, rfl, name.startsPhrase⟩
  | paren inner =>
    exact ⟨_, _, rfl, plain (fun s same => by rw [Stream.startsExpr, same]) (by simp)⟩
  | unary sign operand =>
    refine ⟨_, _, rfl, ?_⟩
    cases sign <;>
      exact plain (fun s same => by rw [Stream.startsExpr, same]; rfl) (by simp [Sign.kind])
  | range operand _ | subquery operand _ _ | offset operand _ _ _ | binary operand _ _ _ =>
    obtain ⟨kind, more, same, starts⟩ := startsPhrase_kinds operand
    exact ⟨kind, _, by rw [kinds, same]; rfl, starts⟩

theorem kinds_ne_nil (e : Phrase) : e.kinds ≠ [] := by
  obtain ⟨kind, more, same, -⟩ := e.startsPhrase_kinds
  rw [same]
  exact List.cons_ne_nil _ _

theorem starts (e : Phrase) {s : Stream} {rest : List Token}
    (spelled : Spells s.rest e.kinds rest) :
    s.startsExpr = true ∧
      ∀ word ∈ modifierWords, (Token.headKind s.rest).isWord word = false := by
  obtain ⟨kind, more, same, starts⟩ := e.startsPhrase_kinds
  rw [same] at spelled
  obtain ⟨t, later, next, rfl, -⟩ := Spells.cons_iff.mp spelled
  rw [next, Token.headKind]
  exact ⟨starts.starts s (Stream.kind_of_rest next), starts.modifies⟩

end Phrase

namespace Parser

open Phrase

/-- What follows an expression read with binding power `least` ends it. -/
def Stops (least : Nat) (rest : List Token) : Prop :=
  (Token.headKind rest).endsExpr = true ∨
    ∃ op, (Token.headKind rest).binaryOp? = some op ∧ op.precedence < least

/-- A parser of expressions reads back every phrase that nests at most `depth` deep. -/
def Understands (sub : Sub) (depth : Nat) : Prop :=
  ∀ (e : Phrase) (least : Nat) (s : Stream) (rest : List Token), e.isGrouped = true →
    e.nesting ≤ depth → least ≤ BinaryOp.pow.precedence → e.bindsAtLeast least = true →
    Spells s.rest e.kinds rest → Stops least rest → Gives (sub least s) e.shape rest

variable {sub : Sub} {depth : Nat}

/-- Between brackets any phrase may stand. -/
theorem Understands.gives (understands : Understands sub depth) {e : Phrase}
    (grouped : e.isGrouped = true) (shallow : e.nesting ≤ depth) {s : Stream} {rest : List Token}
    (spelled : Spells s.rest e.kinds rest) (ends : (Token.headKind rest).endsExpr = true) :
    s.startsExpr = true ∧ Gives (sub 0 s) e.shape rest := by
  refine ⟨(e.starts spelled).1, understands e 0 s rest grouped shallow (Nat.zero_le _) ?_ spelled
    (.inl ends)⟩
  rw [bindsAtLeast]
  cases e.top? <;> simp

/-- An argument up to what separates it from the next or closes the list: nothing is left over. -/
theorem argument_gives (understands : Understands sub depth) {e : Phrase}
    (grouped : e.isGrouped = true) (shallow : e.nesting ≤ depth) {s : Stream} {t : Token}
    {after : List Token} (spelled : Spells s.rest e.kinds (t :: after))
    (ends : t.kind = .comma ∨ t.kind = .rightParen) :
    ∃ arg next, argument sub s = (.item arg, next) ∧ arg.shape = e.shape ∧
      next.rest = t :: after ∧ next.strays endsArgument = ([], next) := by
  have endsExpr : t.kind.endsExpr = true := by rcases ends with same | same <;> rw [same] <;> rfl
  have stops : endsArgument t.kind = true := by rcases ends with same | same <;> rw [same] <;> rfl
  obtain ⟨starts, arg⟩ := understands.gives grouped shallow spelled endsExpr
  refine ⟨(sub 0 s).1, (sub 0 s).2, ?_, arg.shape, arg.rest, strays_stop _ arg.rest stops⟩
  rw [argument, if_pos starts]

/-- Arguments, one or more, and the parenthesis that closes them. -/
theorem callParts_gives (understands : Understands sub depth) (e : Phrase) (more : List Phrase)
    {steps : Nat} (enough : more.length < steps)
    (each : ∀ arg ∈ e :: more, arg.isGrouped = true ∧ arg.nesting ≤ depth)
    {s : Stream} {rest : List Token}
    (spelled : Spells s.rest (closed .rightParen ((e :: more).map kinds)) rest) :
    GivesItems (callParts sub steps s) ((e :: more).map shape) rest := by
  obtain ⟨grouped, shallow⟩ := each e (by simp)
  induction more generalizing e s steps with
  | nil =>
    obtain ⟨steps, rfl⟩ := Nat.exists_eq_succ_of_ne_zero (Nat.ne_of_gt enough)
    obtain ⟨middle, first, last⟩ := Spells.append_iff.mp spelled
    obtain ⟨t, after, rfl, closes, last⟩ := Spells.cons_iff.mp last
    obtain rfl := Spells.nil_iff.mp last
    obtain ⟨arg, next, read, argShape, nextRest, noStrays⟩ :=
      argument_gives understands grouped shallow first (.inr closes)
    simp only [callParts, read, noStrays, Stream.kind_of_rest nextRest, closes]
    exact ⟨⟨[arg], rfl, by simp [argShape]⟩, Stream.advance_rest nextRest⟩
  | cons other more ih =>
    obtain ⟨steps, rfl⟩ := Nat.exists_eq_succ_of_ne_zero (Nat.ne_of_gt (Nat.zero_lt_of_lt enough))
    obtain ⟨middle, first, later⟩ := Spells.append_iff.mp spelled
    obtain ⟨t, after, rfl, comma, later⟩ := Spells.cons_iff.mp later
    obtain ⟨arg, next, read, argShape, nextRest, noStrays⟩ :=
      argument_gives understands grouped shallow first (.inl comma)
    rw [← Stream.advance_rest nextRest] at later
    have remaining : ∀ arg ∈ other :: more, arg.isGrouped = true ∧ arg.nesting ≤ depth :=
      fun arg member => each arg (List.mem_cons_of_mem _ member)
    obtain ⟨grouped, shallow⟩ := remaining other (by simp)
    have tail := ih other (Nat.lt_of_succ_lt_succ enough) remaining later grouped shallow
    simp only [callParts, read, noStrays, Stream.kind_of_rest nextRest, comma]
    rw [List.map_cons, ← argShape]
    exact tail.cons arg

theorem arguments_gives (understands : Understands sub depth) (args : List Phrase)
    (grouped : areGrouped args = true) (shallow : nestingOf args ≤ depth) {s : Stream}
    {rest : List Token} (spelled : Spells s.rest (closed .rightParen (args.map kinds)) rest) :
    GivesItems (arguments sub s) (args.map shape) rest := by
  cases args with
  | nil =>
    obtain ⟨t, more, next, same, last⟩ := Spells.cons_iff.mp spelled
    obtain rfl := Spells.nil_iff.mp last
    rw [arguments, if_pos (by rw [Stream.kind_of_rest next, same])]
    exact ⟨⟨[], rfl, rfl⟩, Stream.advance_rest next⟩
  | cons e more =>
    obtain ⟨middle, first, -⟩ := Spells.closed_cons (by simp) spelled
    have opens : s.kind ≠ .rightParen := by
      intro same
      have starts := (e.starts first).1
      rw [Stream.startsExpr, same] at starts
      cases starts
    have enough : more.length < s.rest.length + 1 := by
      have tokens := length_lt_closed .rightParen ((e :: more).map kinds) (by
        simp [kinds_ne_nil])
      have longer := spelled.length_eq
      rw [List.length_map, List.length_cons] at tokens
      omega
    rw [arguments, if_neg opens]
    refine callParts_gives understands e more enough (fun arg member => ?_) spelled
    exact ⟨areGrouped_iff.mp grouped arg member,
      Nat.le_trans (nesting_le_nestingOf member) shallow⟩

theorem callBody_gives (understands : Understands sub depth) (args : List Phrase)
    (grouped : areGrouped args = true) (shallow : nestingOf args ≤ depth) {s : Stream}
    {rest : List Token}
    (spelled : Spells s.rest (.leftParen :: closed .rightParen (kindsOf args)) rest) :
    Gives (callBody sub s) (.bracketed .functionCallBody .functionCallArgs (shapesOf args))
      rest := by
  obtain ⟨t, more, next, -, inner⟩ := Spells.cons_iff.mp spelled
  rw [← Stream.advance_rest next, kindsOf_eq_map] at inner
  have parts := arguments_gives understands args grouped shallow inner
  rw [shapesOf_eq_map]
  exact ⟨parts.bracketed .functionCallBody .functionCallArgs _ _, parts.rest⟩

/-- An identifier with a parenthesis or a grouping behind it may be an aggregation. -/
theorem identExpr_aggregation {sub : Sub} {name : String} {op : Aggregator} {s : Stream} {t : Token}
    {more : List Token} (next : s.rest = t :: more) (known : Aggregator.ofName? name = some op)
    (follow : Token.headKind more = .leftParen ∨ (Token.headKind more).isWord "by" = true ∨
      (Token.headKind more).isWord "without" = true) :
    identExpr sub name s = aggregate sub op s := by
  have called : (decide (s.second.kind = .leftParen) || s.second.isKeyword "by" ||
      s.second.isKeyword "without") = true := by
    rw [Stream.second_kind next, Stream.second_isKeyword next, Stream.second_isKeyword next]
    rcases follow with same | same | same <;> simp [same]
  simp only [identExpr, called, known, if_true]

theorem identExpr_call {sub : Sub} {name : String} {s : Stream} {t : Token} {more : List Token}
    (next : s.rest = t :: more) (unknown : Aggregator.ofName? name = none)
    (follow : Token.headKind more = .leftParen) :
    identExpr sub name s = functionCall sub name s := by
  have opens : s.second.kind = .leftParen := by rw [Stream.second_kind next, follow]
  simp only [identExpr, opens, unknown, ite_self, if_true]

/-- An identifier that is not called names a metric, or is a number. -/
theorem identExpr_plain {sub : Sub} {name : String} {s : Stream} {t : Token} {more : List Token}
    (next : s.rest = t :: more)
    (follow : Token.headKind more = .leftBrace ∨ (Token.headKind more).endsOperand = true) :
    identExpr sub name s =
      if s.atKeyword "inf" || s.atKeyword "nan" then
        (.wrap .expr (s.leaf .numberLiteral).1, (s.leaf .numberLiteral).2)
      else vectorSelector s := by
  have notCalled : Token.headKind more ≠ .leftParen := by
    intro same
    rw [same] at follow
    rcases follow with brace | ends
    · cases brace
    · exact absurd ends (by decide)
  have notGrouped : ∀ word, word = "by" ∨ word = "without" →
      (Token.headKind more).isWord word = false := by
    intro word grouping
    rcases follow with brace | ends
    · rw [brace]
      rfl
    · exact Token.Kind.isWord_of_endsOperand ends grouping
  simp only [identExpr, Stream.second_kind next, Stream.second_isKeyword next, notCalled,
    notGrouped "by" (.inl rfl), notGrouped "without" (.inr rfl)]
  simp

theorem primary_ident {sub : Sub} {name : String} {s : Stream} {t : Token} {more : List Token}
    (next : s.rest = t :: more) (same : t.kind = .ident name) :
    primary sub s = identExpr sub name s := by
  have found : s.kind = .ident name := by rw [Stream.kind_of_rest next, same]
  simp only [primary, found]

theorem constant_gives (sub : Sub) (word : Choice "inf" "nan") {s : Stream} {rest : List Token}
    (spelled : Spells s.rest (constant word).kinds rest)
    (follow : (Token.headKind rest).endsOperand = true) :
    Gives (primary sub s) (constant word).shape rest := by
  obtain ⟨t, more, next, same, last⟩ := Spells.cons_iff.mp spelled
  obtain rfl := Spells.nil_iff.mp last
  have number : (s.atKeyword "inf" || s.atKeyword "nan") = true := by
    rw [Stream.atKeyword_eq, Stream.atKeyword_eq, next, Token.headKind, same]
    cases word with
    | one word => rw [Choice.kind, word.isWord, Bool.true_or]
    | other word => rw [Choice.kind, word.isWord, Bool.or_true]
  obtain ⟨name, isName⟩ : ∃ name, word.kind = .ident name := by cases word <;> exact ⟨_, rfl⟩
  rw [primary_ident next (same.trans isName), identExpr_plain next (.inr follow), if_pos number]
  exact ⟨rfl, Stream.advance_rest next⟩

/-- A name that is not called starts a selector. -/
theorem primary_name (sub : Sub) (name : Name) {s : Stream} {t : Token} {more : List Token}
    (next : s.rest = t :: more) (same : t.kind = name.kind)
    (follow : Token.headKind more = .leftBrace ∨ (Token.headKind more).endsOperand = true) :
    primary sub s = vectorSelector s := by
  have plain : (s.atKeyword "inf" || s.atKeyword "nan") = false := by
    rw [Stream.atKeyword_eq, Stream.atKeyword_eq, next, Token.headKind, same,
      name.isWord_of_reserved (by simp [reserved]), name.isWord_of_reserved (by simp [reserved])]
    rfl
  rw [primary_ident next same, identExpr_plain next follow, plain]
  rfl

theorem metric_gives (sub : Sub) (name : Name) {s : Stream} {rest : List Token}
    (spelled : Spells s.rest (metric name).kinds rest)
    (follow : (Token.headKind rest).endsOperand = true) :
    Gives (primary sub s) (metric name).shape rest := by
  obtain ⟨t, more, next, same, last⟩ := Spells.cons_iff.mp spelled
  obtain rfl := Spells.nil_iff.mp last
  have bare : (s.leaf .identifier).2.kind ≠ .leftBrace := by
    rw [Stream.kind_eq, (leaf_gives .identifier next).rest]
    intro brace
    rw [brace] at follow
    exact absurd follow (by decide)
  rw [primary_name sub name next same (.inr follow)]
  simp only [vectorSelector, bare, if_false]
  exact ⟨by simp [shape, form, Shape.expr, Stream.leaf], Stream.advance_rest next⟩

theorem selector_gives (sub : Sub) (name : Option Name) (matchers : List Condition) {s : Stream}
    {rest : List Token} (spelled : Spells s.rest (selector name matchers).kinds rest) :
    Gives (primary sub s) (selector name matchers).shape rest := by
  cases name with
  | none =>
    have found := labelMatchers_gives matchers spelled
    obtain ⟨t, more, next, same, -⟩ := Spells.cons_iff.mp spelled
    have opens : s.kind = .leftBrace := by rw [Stream.kind_of_rest next, same]
    simp only [primary, opens]
    exact ⟨by simp [shape, form, Shape.expr, found.shape], found.rest⟩
  | some name =>
    obtain ⟨t, more, next, same, braces⟩ := Spells.cons_iff.mp spelled
    obtain ⟨u, inner, atBrace, isBrace, -⟩ := Spells.cons_iff.mp braces
    have follow : Token.headKind more = .leftBrace := by rw [atBrace, Token.headKind, isBrace]
    have leaf := leaf_gives .identifier next
    have opens : (s.leaf .identifier).2.kind = .leftBrace := by
      rw [Stream.kind_eq, leaf.rest, follow]
    have found := labelMatchers_gives matchers (s := (s.leaf .identifier).2) (by
      rw [leaf.rest]
      exact braces)
    rw [primary_name sub name next same (.inl follow)]
    simp only [vectorSelector, opens, if_true]
    exact ⟨by simp [shape, form, Shape.expr, found.shape, leaf.shape], found.rest⟩

theorem call_gives (understands : Understands sub depth) (name : FunctionName)
    (args : List Phrase) (grouped : areGrouped args = true) (shallow : nestingOf args ≤ depth)
    {s : Stream} {rest : List Token} (spelled : Spells s.rest (call name args).kinds rest) :
    Gives (primary sub s) (call name args).shape rest := by
  obtain ⟨t, more, next, same, inner⟩ := Spells.cons_iff.mp spelled
  obtain ⟨u, later, opens, isOpen, -⟩ := Spells.cons_iff.mp inner
  have follow : Token.headKind more = .leftParen := by rw [opens, Token.headKind, isOpen]
  rw [primary_ident next same, identExpr_call next name.calls follow]
  rw [← Stream.advance_rest next] at inner
  have body := callBody_gives understands args grouped shallow inner
  refine ⟨?_, body.rest⟩
  simp only [functionCall, Stream.leaf, Node.shape_wrap, Node.shape_branch, List.map_cons,
    List.map_nil, body.shape, shape, form, Shape.expr, FunctionName.shape]
  cases QueryFunction.ofName? name.text <;> rfl

theorem atGrouping_clause (clause : Clause "by" "without") {s : Stream} {rest : List Token}
    (spelled : Spells s.rest clause.kinds rest) : s.atGrouping = true := by
  obtain ⟨t, more, next, same, -⟩ := Spells.cons_iff.mp spelled
  rw [Stream.atGrouping, Stream.atKeyword_eq, Stream.atKeyword_eq, next, Token.headKind, same]
  cases clause.word with
  | one word => rw [Choice.kind, word.isWord, Bool.true_or]
  | other word => rw [Choice.kind, word.isWord, Bool.or_true]

theorem earlyGrouping_gives (grouping : Grouping) {s : Stream} {rest : List Token}
    (spelled : Spells s.rest grouping.kinds.1 rest) (follow : Token.headKind rest = .leftParen) :
    s.atGrouping = grouping.isEarly ∧
      GivesAll (earlyGrouping s) grouping.shapes.1 rest := by
  have absent : s.rest = rest → s.atGrouping = false := by
    rintro rfl
    rw [Stream.atGrouping, Stream.atKeyword_eq, Stream.atKeyword_eq, follow]
    rfl
  cases grouping with
  | before clause =>
    have found := atGrouping_clause clause spelled
    have modifier := aggregateModifier_gives clause spelled
    refine ⟨found, ?_⟩
    rw [earlyGrouping, if_pos found]
    exact ⟨by simp only [List.map_cons, List.map_nil, modifier.shape, Grouping.shapes],
      modifier.rest⟩
  | none | after =>
    have same := Spells.nil_iff.mp spelled
    refine ⟨absent same, ?_⟩
    rw [earlyGrouping, absent same]
    exact ⟨rfl, same⟩

theorem lateGrouping_gives (grouping : Grouping) {s : Stream} {rest : List Token}
    (spelled : Spells s.rest grouping.kinds.2 rest)
    (follow : (Token.headKind rest).endsOperand = true) :
    GivesAll (lateGrouping (grouping.isEarly) s) grouping.shapes.2 rest := by
  cases grouping with
  | after clause =>
    have found := atGrouping_clause clause spelled
    have modifier := aggregateModifier_gives clause spelled
    simp only [lateGrouping, Grouping.isEarly, found, Bool.not_false, Bool.and_self, if_true]
    exact ⟨by simp only [List.map_cons, List.map_nil, modifier.shape, Grouping.shapes],
      modifier.rest⟩
  | none | before =>
    obtain rfl := Spells.nil_iff.mp spelled
    simp only [lateGrouping, Stream.atGrouping_of_endsOperand follow,
      Stream.atStrayIdent_of_endsOperand follow, Bool.and_false, Bool.false_eq_true, if_false]
    exact ⟨rfl, rfl⟩

theorem aggregate_gives (understands : Understands sub depth) (name : AggregatorName)
    (grouping : Grouping) (args : List Phrase) (grouped : areGrouped args = true)
    (shallow : nestingOf args ≤ depth) {s : Stream} {rest : List Token}
    (spelled : Spells s.rest (Phrase.aggregate name grouping args).kinds rest)
    (follow : (Token.headKind rest).endsOperand = true) :
    Gives (primary sub s) (Phrase.aggregate name grouping args).shape rest := by
  obtain ⟨behind, front, last⟩ := Spells.append_iff.mp spelled
  obtain ⟨middle, front, inner⟩ := Spells.append_iff.mp front
  obtain ⟨t, more, next, same, first⟩ := Spells.cons_iff.mp front
  obtain ⟨u, later, opens, isOpen, -⟩ := Spells.cons_iff.mp inner
  have opened : Token.headKind middle = .leftParen := by rw [opens, Token.headKind, isOpen]
  have called : Token.headKind more = .leftParen ∨ (Token.headKind more).isWord "by" = true ∨
      (Token.headKind more).isWord "without" = true := by
    cases grouping with
    | before clause =>
      rw [← Stream.advance_rest next] at first ⊢
      have found := atGrouping_clause clause first
      rw [Stream.atGrouping, Stream.atKeyword_eq, Stream.atKeyword_eq, Bool.or_eq_true] at found
      exact .inr found
    | none | after =>
      rw [Spells.nil_iff.mp first]
      exact .inl opened
  rw [primary_ident next same, identExpr_aggregation next name.known called]
  rw [← (leaf_gives (.aggregator name.op) next).rest] at first
  obtain ⟨early, before⟩ := earlyGrouping_gives grouping first opened
  rw [← before.rest] at inner opened
  have body := callBody_gives understands args grouped shallow inner
  rw [← body.rest] at last
  have after := lateGrouping_gives grouping last follow
  have bracket : (earlyGrouping (s.leaf (.aggregator name.op)).2).2.kind = .leftParen := by
    rw [Stream.kind_eq, opened]
  simp only [Parser.aggregate, early, expectCallBody, bracket, if_true]
  refine ⟨?_, after.rest⟩
  simp only [Node.shape_wrap, Node.shape_branch, List.map_cons, List.map_append, List.cons_append,
    before.shapes, body.shape, after.shapes, shape, form, Shape.expr]
  rfl

theorem paren_gives (understands : Understands sub depth) {inner : Phrase}
    (grouped : inner.isGrouped = true) (shallow : inner.nesting ≤ depth) {s : Stream}
    {rest : List Token} (spelled : Spells s.rest (Phrase.paren inner).kinds rest) :
    Gives (primary sub s) (Phrase.paren inner).shape rest := by
  obtain ⟨middle, front, last⟩ := Spells.append_iff.mp spelled
  obtain ⟨t, more, next, same, first⟩ := Spells.cons_iff.mp front
  obtain ⟨u, later, rfl, closes, last⟩ := Spells.cons_iff.mp last
  obtain rfl := Spells.nil_iff.mp last
  rw [← Stream.advance_rest next] at first
  obtain ⟨starts, expr⟩ := understands.gives grouped shallow first (by
    rw [Token.headKind, closes]
    rfl)
  have none := strays_stop closesParen expr.rest (by rw [closes]; rfl)
  have opens : s.kind = .leftParen := by rw [Stream.kind_of_rest next, same]
  have skipped := Stream.skip_rest expr.rest
  rw [closes] at skipped
  simp only [primary, opens, Parser.paren, expectExpr, starts, if_true, none]
  exact ⟨by simp [shape, form, Shape.expr, expr.shape], skipped⟩

theorem literal_gives (sub : Sub) {s : Stream} {t : Token} {more : List Token}
    (next : s.rest = t :: more) :
    (∀ text, t.kind = .number text → Gives (primary sub s) (Phrase.number text).shape more) ∧
      (∀ raw, t.kind = .string raw true →
        Gives (primary sub s) (Phrase.string raw).shape more) := by
  constructor
  · intro text same
    have found : s.kind = .number text := by rw [Stream.kind_of_rest next, same]
    simp only [primary, found]
    exact ⟨rfl, Stream.advance_rest next⟩
  · intro raw same
    have found : s.kind = .string raw true := by rw [Stream.kind_of_rest next, same]
    simp only [primary, found]
    exact ⟨rfl, Stream.advance_rest next⟩

/-- A range behind an operand. -/
theorem range_gives {expr : Node} {length : String} {inner : Shape} {s : Stream}
    {middle rest : List Token} (given : Gives (expr, s) inner middle)
    (spelled : Spells middle [.leftBracket, .duration length, .rightBracket] rest) :
    Gives (Parser.range expr s) (.expr (.mk .matrixSelector [inner, .leaf .duration])) rest := by
  obtain ⟨rfl, rfl⟩ := given
  obtain ⟨t, more, next, -, later⟩ := Spells.cons_iff.mp spelled
  obtain ⟨u, more', rfl, isDuration, later⟩ := Spells.cons_iff.mp later
  obtain ⟨v, more'', rfl, closes, last⟩ := Spells.cons_iff.mp later
  obtain rfl := Spells.nil_iff.mp last
  have second := Stream.advance_rest next
  have third := Stream.advance_rest second
  have duration : s.advance.kind = .duration length := by
    rw [Stream.kind_of_rest second, isDuration]
  have bracket : s.advance.advance.kind = .rightBracket := by rw [Stream.kind_of_rest third, closes]
  have skipped := Stream.skip_rest third
  rw [closes] at skipped
  simp only [Parser.range, rangeDuration, duration, Stream.leaf, bracket, reduceCtorEq, if_false]
  exact ⟨by simp [Shape.expr], skipped⟩

/-- A range with a step behind an operand. -/
theorem subquery_gives {expr : Node} {length : String} {step : Option String} {inner : Shape}
    {s : Stream} {middle rest : List Token} (given : Gives (expr, s) inner middle)
    (spelled : Spells middle (.leftBracket :: .duration length :: .colon ::
      (step.map .duration).toList ++ [.rightBracket]) rest) :
    Gives (Parser.range expr s) (.expr (.mk .subqueryExpr (inner :: .leaf .duration ::
      (step.map fun _ => .leaf .duration).toList))) rest := by
  obtain ⟨rfl, rfl⟩ := given
  obtain ⟨middle, front, last⟩ := Spells.append_iff.mp spelled
  obtain ⟨v, after, rfl, closes, last⟩ := Spells.cons_iff.mp last
  obtain rfl := Spells.nil_iff.mp last
  obtain ⟨t, more, next, -, front⟩ := Spells.cons_iff.mp front
  obtain ⟨u, more, rfl, isDuration, front⟩ := Spells.cons_iff.mp front
  obtain ⟨w, more, rfl, isColon, front⟩ := Spells.cons_iff.mp front
  have second := Stream.advance_rest next
  have third := Stream.advance_rest second
  have fourth := Stream.advance_rest third
  have duration : s.advance.kind = .duration length := by
    rw [Stream.kind_of_rest second, isDuration]
  have colon : s.advance.advance.kind = .colon := by rw [Stream.kind_of_rest third, isColon]
  have steps : GivesAll (rangeStep s.advance.advance.advance)
      (step.map fun _ => .leaf .duration).toList (v :: after) := by
    cases step with
    | none =>
      obtain rfl := Spells.nil_iff.mp front
      have bracket : s.advance.advance.advance.kind = .rightBracket := by
        rw [Stream.kind_of_rest fourth, closes]
      simp only [rangeStep, bracket]
      exact ⟨rfl, fourth⟩
    | some step =>
      obtain ⟨x, more, rfl, isStep, front⟩ := Spells.cons_iff.mp front
      obtain rfl := Spells.nil_iff.mp front
      have duration : s.advance.advance.advance.kind = .duration step := by
        rw [Stream.kind_of_rest fourth, isStep]
      simp only [rangeStep, duration]
      exact ⟨rfl, Stream.advance_rest fourth⟩
  have skipped := Stream.skip_rest steps.rest
  rw [closes] at skipped
  simp only [Parser.range, rangeDuration, duration, Stream.leaf, colon, if_true]
  exact ⟨by simp [Shape.expr, steps.shapes], skipped⟩

/-- An offset behind an operand, forwards or back. -/
theorem offset_gives {expr : Node} {word : Keyword "offset"} {back : Bool} {length : String}
    {inner : Shape} {s : Stream} {middle rest : List Token} (given : Gives (expr, s) inner middle)
    (spelled : Spells middle (.ident word.text :: (if back then [.minus] else []) ++
      [.duration length]) rest) :
    Gives (Parser.offset expr s) (.expr (.mk .offsetExpr
      [inner, .leaf .keywordOffset, .leaf .duration])) rest := by
  obtain ⟨rfl, rfl⟩ := given
  obtain ⟨t, more, next, -, later⟩ := Spells.cons_iff.mp spelled
  have second := Stream.advance_rest next
  cases back with
  | false =>
    obtain ⟨u, more, rfl, isDuration, last⟩ := Spells.cons_iff.mp later
    obtain rfl := Spells.nil_iff.mp last
    have duration : s.advance.kind = .duration length := by
      rw [Stream.kind_of_rest second, isDuration]
    simp only [Parser.offset, offsetDuration, Stream.leaf, duration, reduceCtorEq, decide_false,
      Bool.false_and, Bool.false_eq_true, if_false]
    exact ⟨by simp [Shape.expr], Stream.advance_rest second⟩
  | true =>
    obtain ⟨u, more, rfl, isSign, later⟩ := Spells.cons_iff.mp later
    obtain ⟨v, more, rfl, isLength, last⟩ := Spells.cons_iff.mp later
    obtain rfl := Spells.nil_iff.mp last
    have third := Stream.advance_rest second
    have sign : s.advance.kind = .minus := by rw [Stream.kind_of_rest second, isSign]
    have signed : s.advance.second.kind = .duration length := by
      rw [Stream.second_kind second, Token.headKind, isLength]
    have duration : s.advance.advance.kind = .duration length := by
      rw [Stream.kind_of_rest third, isLength]
    simp only [Parser.offset, offsetDuration, Stream.leaf, sign, signed, isDuration, decide_true,
      Bool.and_self, if_true, duration]
    exact ⟨by simp [Shape.expr], Stream.advance_rest third⟩

/-- Reading an operand gets to where the loop over ranges and offsets has a node of `shape` and
`rest` to read. -/
def ReachesOperand (sub : Sub) (s : Stream) (shape : Shape) (rest : List Token) : Prop :=
  ∃ steps node after, rest.length ≤ steps ∧ Gives (node, after) shape rest ∧
    operand sub s = postfixes steps node after

theorem Gives.reachesOperand {s : Stream} {form : Shape} {rest : List Token}
    (read : Gives (primary sub s) (.expr form) rest) : ReachesOperand sub s (.expr form) rest := by
  have valid : (primary sub s).1.kind ≠ .error := by
    rw [Node.kind_of_shape read.shape]
    simp
  have turn : operand sub s = postfixes rest.length (primary sub s).1 (primary sub s).2 := by
    simp only [operand, valid, if_false, read.rest]
  exact ⟨_, _, _, Nat.le_refl _, ⟨read.shape, read.rest⟩, turn⟩

/-- One range or offset more. -/
theorem ReachesOperand.step {s : Stream} {shape form : Shape} {middle rest : List Token}
    (next : Node → Stream → Node × Stream) (reached : ReachesOperand sub s shape middle)
    (shorter : rest.length < middle.length)
    (turn : ∀ steps node after, Gives (node, after) shape middle →
      postfixes (steps + 1) node after = postfixes steps (next node after).1 (next node after).2)
    (read : ∀ node after, Gives (node, after) shape middle → Gives (next node after) form rest) :
    ReachesOperand sub s form rest := by
  obtain ⟨steps, node, after, enough, given, same⟩ := reached
  obtain ⟨steps, rfl⟩ := Nat.exists_eq_succ_of_ne_zero (n := steps) (by omega)
  have taken := read node after given
  exact ⟨_, _, _, by omega, ⟨taken.shape, taken.rest⟩, same.trans (turn steps node after given)⟩

theorem postfixes_range {middle : List Token} {shape : Shape}
    (opens : Token.headKind middle = .leftBracket) (steps : Nat) (node : Node) (after : Stream)
    (given : Gives (node, after) shape middle) :
    postfixes (steps + 1) node after =
      postfixes steps (Parser.range node after).1 (Parser.range node after).2 := by
  have bracket : after.kind = .leftBracket := by
    rw [Stream.kind_eq, given.rest, opens]
  rw [postfixes, if_pos bracket]

theorem postfixes_offset {middle : List Token} {shape : Shape}
    (word : (Token.headKind middle).isWord "offset" = true) (steps : Nat) (node : Node)
    (after : Stream) (given : Gives (node, after) shape middle) :
    postfixes (steps + 1) node after =
      postfixes steps (Parser.offset node after).1 (Parser.offset node after).2 := by
  have noBracket : after.kind ≠ .leftBracket := by
    intro bracket
    rw [Stream.kind_eq, given.rest] at bracket
    rw [bracket] at word
    cases word
  have keyword : after.atKeyword "offset" = true := by
    rw [Stream.atKeyword_eq, given.rest, word]
  rw [postfixes, if_neg noBracket, if_pos keyword]

theorem operand_reached (understands : Understands sub depth) (e : Phrase)
    (isOperand : e.isOperand = true) (grouped : e.isGrouped = true)
    (shallow : e.nesting ≤ depth + 1) {s : Stream} {rest : List Token}
    (spelled : Spells s.rest e.kinds rest) (follow : (Token.headKind rest).endsOperand = true) :
    ReachesOperand sub s e.shape rest := by
  match e with
  | .number text =>
    obtain ⟨t, more, next, same, last⟩ := Spells.cons_iff.mp spelled
    obtain rfl := Spells.nil_iff.mp last
    exact ((literal_gives sub next).1 text same).reachesOperand
  | .string raw =>
    obtain ⟨t, more, next, same, last⟩ := Spells.cons_iff.mp spelled
    obtain rfl := Spells.nil_iff.mp last
    exact ((literal_gives sub next).2 raw same).reachesOperand
  | .constant word => exact (constant_gives sub word spelled follow).reachesOperand
  | .metric name => exact (metric_gives sub name spelled follow).reachesOperand
  | .selector name matchers => exact (selector_gives sub name matchers spelled).reachesOperand
  | .call name args =>
    rw [isGrouped] at grouped
    rw [nesting] at shallow
    exact (call_gives understands name args grouped (by omega) spelled).reachesOperand
  | .aggregate name grouping args =>
    rw [isGrouped] at grouped
    rw [nesting] at shallow
    exact (aggregate_gives understands name grouping args grouped (by omega) spelled
      follow).reachesOperand
  | .paren inner =>
    rw [isGrouped] at grouped
    rw [nesting] at shallow
    exact (paren_gives understands grouped (by omega) spelled).reachesOperand
  | .range inner length =>
    rw [isGrouped, Bool.and_eq_true] at grouped
    rw [nesting] at shallow
    obtain ⟨middle, front, last⟩ := Spells.append_iff.mp spelled
    have head : Token.headKind middle = .leftBracket := last.headKind
    have reached := operand_reached understands inner grouped.1 grouped.2 shallow front
      (by rw [head]; rfl)
    exact reached.step Parser.range last.length_lt (postfixes_range head) fun node after given =>
      range_gives given last
  | .subquery inner length step =>
    rw [isGrouped, Bool.and_eq_true] at grouped
    rw [nesting] at shallow
    rw [kinds, List.append_assoc] at spelled
    obtain ⟨middle, front, last⟩ := Spells.append_iff.mp spelled
    have head : Token.headKind middle = .leftBracket := last.headKind
    have reached := operand_reached understands inner grouped.1 grouped.2 shallow front
      (by rw [head]; rfl)
    exact reached.step Parser.range last.length_lt (postfixes_range head) fun node after given =>
      subquery_gives given last
  | .offset inner word back length =>
    rw [isGrouped, Bool.and_eq_true] at grouped
    rw [nesting] at shallow
    rw [kinds, List.append_assoc] at spelled
    obtain ⟨middle, front, last⟩ := Spells.append_iff.mp spelled
    have head : (Token.headKind middle).isWord "offset" = true := by
      rw [last.headKind]
      exact word.isWord
    have reached := operand_reached understands inner grouped.1 grouped.2 shallow front
      (by simp [Token.Kind.endsOperand, head])
    exact reached.step Parser.offset last.length_lt (postfixes_offset head) fun node after given =>
      offset_gives given last
  | .unary _ _ | .binary _ _ _ _ => cases isOperand

/-- What follows a phrase ends it, or is an operator that takes it as left operand. -/
def Continues (e : Phrase) (rest : List Token) : Prop :=
  (Token.headKind rest).endsExpr = true ∨
    ∃ op, (Token.headKind rest).binaryOp? = some op ∧ e.fitsLeft op = true

theorem Continues.endsOperand {e : Phrase} {rest : List Token} (continues : Continues e rest) :
    (Token.headKind rest).endsOperand = true := by
  rcases continues with ends | ⟨op, found, -⟩
  · exact Token.Kind.endsOperand_of_endsExpr ends
  · exact Token.Kind.endsOperand_of_binaryOp? found

theorem postfixes_over {after : Stream} (noBracket : after.kind ≠ .leftBracket)
    (noOffset : after.atKeyword "offset" = false) (steps : Nat) (node : Node) :
    Parser.postfixes steps node after = (node, after) := by
  cases steps with
  | zero => rfl
  | succ steps =>
    rw [Parser.postfixes, if_neg noBracket, noOffset]
    rfl

/-- Ranges and offsets are over where an operator or the end of the expression follows. -/
theorem Continues.postfixes {e : Phrase} {rest : List Token} (continues : Continues e rest)
    (steps : Nat) {node : Node} {after : Stream} (left : after.rest = rest) :
    Parser.postfixes steps node after = (node, after) := by
  have noBracket : after.kind ≠ .leftBracket := by
    rw [Stream.kind_eq, left]
    intro bracket
    rcases continues with ends | ⟨op, found, -⟩
    · rw [bracket] at ends
      cases ends
    · rw [bracket] at found
      cases found
  have noOffset : after.atKeyword "offset" = false := by
    rw [Stream.atKeyword_eq, left]
    rcases continues with ends | ⟨op, found, -⟩
    · generalize Token.headKind rest = kind at ends
      cases kind <;> first | rfl | cases ends
    · exact Token.Kind.isWord_offset_of_binaryOp? found
  exact postfixes_over noBracket noOffset steps node

/-- A loop over operators is over where what follows binds too weak. -/
theorem Stops.binaries {least : Nat} {rest : List Token} (stops : Stops least rest) (sub : Sub)
    (steps : Nat) {node : Node} {after : Stream} (left : after.rest = rest) :
    Parser.binaries sub least steps node after = (node, after) := by
  cases steps with
  | zero => rfl
  | succ steps =>
    have operator := Stream.binaryOp?_eq after
    rw [left] at operator
    rcases stops with ends | ⟨op, found, weak⟩
    · have none : after.binaryOp? = none := by
        rw [operator]
        generalize Token.headKind rest = kind at ends
        cases kind <;> first | rfl | cases ends
      simp only [Parser.binaries, none]
    · rw [found] at operator
      simp only [Parser.binaries, operator, weak, if_true]

/-- Reading an expression gets to where the loop over operators has a node of `shape` and `rest`
to read. -/
def ReachesLoop (depth least : Nat) (s : Stream) (shape : Shape) (rest : List Token) : Prop :=
  ∃ steps node after, rest.length ≤ steps ∧ Gives (node, after) shape rest ∧
    expr (depth + 1) least s = binaries (expr depth) least steps node after

theorem Gives.reachesLoop {least : Nat} {s : Stream} {shape : Shape} {rest : List Token}
    (read : Gives (Parser.unary (expr depth) s) shape rest) :
    ReachesLoop depth least s shape rest := by
  have turn : expr (depth + 1) least s =
      binaries (expr depth) least rest.length (Parser.unary (expr depth) s).1
        (Parser.unary (expr depth) s).2 := by
    simp only [expr, read.rest]
  exact ⟨_, _, _, Nat.le_refl _, ⟨read.shape, read.rest⟩, turn⟩

theorem unary_gives (understands : Understands sub depth) (sign : Sign) {operand : Phrase}
    (grouped : (Phrase.unary sign operand).isGrouped = true) (shallow : operand.nesting ≤ depth)
    {s : Stream} {rest : List Token}
    (spelled : Spells s.rest (Phrase.unary sign operand).kinds rest)
    (continues : Continues (Phrase.unary sign operand) rest) :
    Gives (Parser.unary sub s) (Phrase.unary sign operand).shape rest := by
  rw [isGrouped, Bool.and_eq_true] at grouped
  obtain ⟨t, more, next, same, inner⟩ := Spells.cons_iff.mp spelled
  rw [← (leaf_gives .unaryOp next).rest] at inner
  have signed : (decide (s.kind = .plus) || decide (s.kind = .minus)) = true := by
    rw [Stream.kind_of_rest next, same]
    cases sign <;> rfl
  have tight : operand.bindsAtLeast BinaryOp.pow.precedence = true := by
    rw [bindsAtLeast]
    have only := grouped.1
    cases top : operand.top? with
    | none => rfl
    | some q =>
      rw [top] at only
      simp_all
  have stops : Stops BinaryOp.pow.precedence rest := by
    refine continues.imp_right ?_
    rintro ⟨op, found, fits⟩
    refine ⟨op, found, BinaryOp.precedence_lt_pow_iff.mpr ?_⟩
    rintro rfl
    simp [fitsLeft, isOperand] at fits
  have read := understands operand _ _ rest grouped.2 shallow (Nat.le_refl _) tight inner stops
  simp only [Parser.unary, signed, if_true, expectExpr, (operand.starts inner).1]
  refine ⟨?_, read.rest⟩
  simp only [Node.shape_wrap, Node.shape_branch, List.map_cons, List.map_nil, read.shape]
  rfl

/-- An operator, its modifiers and a phrase that fits to its right. -/
theorem binary_gives (understands : Understands sub depth) {lhs : Node} {left : Shape}
    {right : Phrase} {op : Operator} {modifiers : Modifiers} (grouped : right.isGrouped = true)
    (shallow : right.nesting ≤ depth) (fits : right.fitsRight op.op = true) {s : Stream}
    {middle rest : List Token} (given : Gives (lhs, s) left middle)
    (spelled : Spells middle (op.kind :: modifiers.kinds ++ right.kinds) rest)
    (stops : Stops op.op.rightPrecedence rest) :
    Gives (Parser.binary sub op.op lhs s)
      (.expr (.mk .binaryExpr
        (left :: .leaf (.operator op.op) :: modifiers.shapes ++ [right.shape])))
      rest := by
  obtain ⟨rfl, rfl⟩ := given
  obtain ⟨behind, front, last⟩ := Spells.append_iff.mp spelled
  obtain ⟨t, more, next, -, front⟩ := Spells.cons_iff.mp front
  rw [← (leaf_gives (.operator op.op) next).rest] at front
  have flags := binModifiers_gives modifiers front (right.starts (s := ⟨behind, 0, 0⟩) last).2
  rw [← flags.rest] at last
  have tight : right.bindsAtLeast op.op.rightPrecedence = true := by
    rw [bindsAtLeast]
    rw [fitsRight] at fits
    cases top : right.top? with
    | none => rfl
    | some q =>
      rw [top, Option.all_some, Bool.or_eq_true, Bool.and_eq_true] at fits
      simp only [decide_eq_true_eq, beq_iff_eq] at fits
      exact decide_eq_true (BinaryOp.rightPrecedence_le_iff.mpr fits)
  have bound : op.op.rightPrecedence ≤ BinaryOp.pow.precedence := by
    rw [BinaryOp.rightPrecedence_eq]
    omega
  have operand := understands right _ _ rest grouped shallow bound tight last stops
  simp only [Parser.binary, expectExpr, (right.starts last).1, if_true]
  refine ⟨?_, operand.rest⟩
  simp only [Node.shape_wrap, Node.shape_branch, List.map_append, List.map_cons, List.map_nil,
    flags.shapes, operand.shape]
  rfl

/-- The loop goes on with an operator that binds tight enough. -/
theorem ReachesLoop.binary (understands : Understands (expr depth) depth) {least : Nat}
    {left right : Phrase} {op : Operator} {modifiers : Modifiers} {s : Stream}
    {middle rest : List Token} (reached : ReachesLoop depth least s left.shape middle)
    (strong : least ≤ op.op.precedence) (grouped : right.isGrouped = true)
    (shallow : right.nesting ≤ depth) (fits : right.fitsRight op.op = true)
    (spelled : Spells middle (op.kind :: modifiers.kinds ++ right.kinds) rest)
    (stops : Stops op.op.rightPrecedence rest) :
    ReachesLoop depth least s (Phrase.binary left op modifiers right).shape rest := by
  obtain ⟨steps, node, after, enough, given, same⟩ := reached
  have shorter : rest.length < middle.length := spelled.length_lt
  obtain ⟨steps, rfl⟩ := Nat.exists_eq_succ_of_ne_zero (n := steps) (by omega)
  have found : after.binaryOp? = some op.op := by
    rw [Stream.binaryOp?_eq, given.rest, spelled.headKind]
    exact op.reads
  have joined := binary_gives understands grouped shallow fits given spelled stops
  have turn : binaries (expr depth) least (steps + 1) node after =
      binaries (expr depth) least steps (Parser.binary (expr depth) op.op node after).1
        (Parser.binary (expr depth) op.op node after).2 := by
    simp only [binaries, found, Nat.not_lt.mpr strong, if_false]
  exact ⟨_, _, _, by omega, ⟨joined.shape, joined.rest⟩, same.trans turn⟩

/-- An operand starts with no sign. -/
theorem operand_head (e : Phrase) (isOperand : e.isOperand = true) (grouped : e.isGrouped = true) :
    ∃ kind more, e.kinds = kind :: more ∧ kind ≠ .plus ∧ kind ≠ .minus := by
  match e with
  | .number _ | .string _ | .metric _ | .selector none _ | .selector (some _) _ | .call _ _
  | .aggregate _ _ _ | .paren _ => exact ⟨_, _, rfl, by simp [Name.kind], by simp [Name.kind]⟩
  | .constant word => cases word <;> exact ⟨_, _, rfl, by simp [Choice.kind], by simp [Choice.kind]⟩
  | .range inner _ | .subquery inner _ _ | .offset inner _ _ _ =>
    rw [isGrouped, Bool.and_eq_true] at grouped
    obtain ⟨kind, more, same, unsigned⟩ := operand_head inner grouped.1 grouped.2
    exact ⟨kind, _, by rw [kinds, same]; rfl, unsigned⟩
  | .unary _ _ | .binary _ _ _ _ => cases isOperand

theorem operand_gives (understands : Understands sub depth) (e : Phrase)
    (isOperand : e.isOperand = true) (grouped : e.isGrouped = true)
    (shallow : e.nesting ≤ depth + 1) {s : Stream} {rest : List Token}
    (spelled : Spells s.rest e.kinds rest) (continues : Continues e rest) :
    Gives (Parser.unary sub s) e.shape rest := by
  obtain ⟨kind, more, same, notPlus, notMinus⟩ := operand_head e isOperand grouped
  have unsigned : (decide (s.kind = .plus) || decide (s.kind = .minus)) = false := by
    rw [same] at spelled
    rw [Stream.kind_eq, spelled.headKind]
    simp [notPlus, notMinus]
  obtain ⟨steps, node, after, -, given, reached⟩ :=
    operand_reached understands e isOperand grouped shallow spelled continues.endsOperand
  rw [Parser.unary, unsigned, reached, continues.postfixes steps given.rest]
  exact given

/-- An operator that takes `left op right` as its left operand ends the right one. -/
theorem Continues.stops {left right : Phrase} {op : Operator} {modifiers : Modifiers}
    {rest : List Token} (continues : Continues (Phrase.binary left op modifiers right) rest) :
    Stops op.op.rightPrecedence rest := by
  refine continues.imp_right ?_
  rintro ⟨next, found, fits⟩
  refine ⟨next, found, BinaryOp.lt_rightPrecedence_iff.mpr ?_⟩
  simpa [fitsLeft, top?, isOperand] using fits

/-- The left operand of an operator is read first, then the operator takes it. The induction goes
down the left operands; the right ones are one level deeper. -/
theorem expr_reached (understands : Understands (expr depth) depth) (e : Phrase) {least : Nat}
    (grouped : e.isGrouped = true) (shallow : e.nesting ≤ depth + 1)
    (binds : e.bindsAtLeast least = true) {s : Stream} {rest : List Token}
    (spelled : Spells s.rest e.kinds rest) (continues : Continues e rest) :
    ReachesLoop depth least s e.shape rest := by
  match e with
  | .binary left op modifiers right =>
    simp only [isGrouped, Bool.and_eq_true] at grouped
    obtain ⟨⟨⟨fitsLeft, fitsRight⟩, leftGrouped⟩, rightGrouped⟩ := grouped
    rw [nesting] at shallow
    have strong : least ≤ op.op.precedence := by simpa [bindsAtLeast, top?] using binds
    have leftBinds : left.bindsAtLeast least = true := by
      rw [bindsAtLeast]
      rw [Phrase.fitsLeft, Bool.and_eq_true] at fitsLeft
      have bound := fitsLeft.1
      cases top : left.top? with
      | none => rfl
      | some q =>
        rw [top, Option.all_some, decide_eq_true_eq] at bound
        exact decide_eq_true (Nat.le_trans strong bound)
    rw [kinds, List.append_assoc] at spelled
    obtain ⟨middle, front, last⟩ := Spells.append_iff.mp spelled
    have next : Continues left middle := by
      refine .inr ⟨op.op, ?_, fitsLeft⟩
      rw [last.headKind]
      exact op.reads
    have reached := expr_reached understands left leftGrouped (by omega) leftBinds front next
    exact reached.binary understands strong rightGrouped (by omega) fitsRight last continues.stops
  | .unary sign operand =>
    rw [nesting] at shallow
    exact (unary_gives understands sign grouped (by omega) spelled continues).reachesLoop
  | .number _ | .constant _ | .string _ | .metric _ | .selector _ _ | .call _ _ | .aggregate _ _ _
  | .paren _ | .range _ _ | .subquery _ _ _ | .offset _ _ _ _ =>
    exact (operand_gives understands _ rfl grouped shallow spelled continues).reachesLoop

/-- What ends an expression may follow the phrase it is read as. -/
theorem Stops.continues {least : Nat} {e : Phrase} {rest : List Token} (stops : Stops least rest)
    (bound : least ≤ BinaryOp.pow.precedence) (binds : e.bindsAtLeast least = true) :
    Continues e rest := by
  refine stops.imp_right ?_
  rintro ⟨op, found, weak⟩
  refine ⟨op, found, ?_⟩
  have notPow : op ≠ .pow := BinaryOp.precedence_lt_pow_iff.mp (Nat.lt_of_lt_of_le weak bound)
  rw [fitsLeft, Bool.and_eq_true]
  constructor
  · rw [bindsAtLeast] at binds
    cases top : e.top? with
    | none => rfl
    | some q =>
      rw [top, Option.all_some, decide_eq_true_eq] at binds
      exact decide_eq_true (by omega)
  · simp [notPow]

theorem expr_understands (depth : Nat) : Understands (expr depth) depth := by
  induction depth with
  | zero =>
    intro e least s rest grouped shallow
    have positive := e.nesting_pos
    omega
  | succ depth ih =>
    intro e least s rest grouped shallow bound binds spelled stops
    obtain ⟨steps, node, after, -, given, reached⟩ :=
      expr_reached ih e grouped shallow binds spelled (stops.continues bound binds)
    rw [reached, stops.binaries (expr depth) steps given.rest]
    exact given

end Parser

/-- Every phrase, whatever text its tokens stand in, is read as the tree it stands for, and that
tree has no errors. -/
theorem SyntaxTree.parse_phrase (e : Phrase) (grouped : e.isGrouped = true)
    (shallow : e.nesting ≤ Parser.maxDepth) (text : Text)
    (written : (Token.scan text).map Token.kind = e.kinds ++ [.endOfInput]) :
    (parse text).root.shape = .mk .query [e.shape] ∧
      ∀ n ∈ (parse text).nodes, n.kind ≠ .error := by
  obtain ⟨ts, scanned, -, -, whole, -⟩ := exists_tokens text
  have kinds : ts.map Token.kind = e.kinds := by
    rw [scanned, List.map_append] at written
    exact List.append_cancel_right written
  have read : (parse text).root.shape = .mk .query [e.shape] := by
    have spelled : Spells (Stream.mk ts (Text.size text) 0).rest e.kinds [] :=
      ⟨ts, (List.append_nil ts).symm, kinds⟩
    obtain ⟨starts, expr⟩ :=
      (Parser.expr_understands Parser.maxDepth).gives grouped shallow spelled rfl
    rw [whole]
    simp only [Parser.query, Parser.topExpr, starts, if_true,
      Parser.strays_nil Parser.endsNothing expr.rest, Node.shape_branch, List.append_nil,
      List.map_cons, List.map_nil, expr.shape]
  refine ⟨read, Node.valid_of_isClean ?_⟩
  rw [read]
  simp [Phrase.shape, e.form_isClean]

/-- A ratio of a rate, grouped by job, to a power. -/
def Phrase.ratio : Phrase :=
  .binary
    (.aggregate ⟨"sum", .sum, by decide⟩ (.before ⟨.one ⟨"by", by decide⟩, [⟨"job", by decide⟩]⟩)
      [.call ⟨⟨"rate", by decide⟩, by decide⟩
        [.offset (.range (.metric ⟨"up", by decide⟩) "5m") ⟨"offset", by decide⟩ true "1h"]])
    ⟨.slash, .div, rfl⟩
    ⟨none, some ⟨⟨.one ⟨"on", by decide⟩, [⟨"x", by decide⟩]⟩,
      some ⟨.one ⟨"group_left", by decide⟩, []⟩⟩⟩
    (.binary (.number "2") ⟨.caret, .pow, rfl⟩ ⟨none, none⟩
      (.unary .minus (.metric ⟨"y", by decide⟩)))

theorem SyntaxTree.parse_ratio :
    Phrase.ratio.isGrouped = true ∧ Phrase.ratio.nesting ≤ Parser.maxDepth ∧
      (parse "sum by (job) (rate(up[5m] offset -1h)) / on(x) group_left() 2 ^ -y".toList).root.shape
        = .mk .query [Phrase.ratio.shape] :=
  have grouped : Phrase.ratio.isGrouped = true := by decide
  have shallow : Phrase.ratio.nesting ≤ Parser.maxDepth := by decide
  ⟨grouped, shallow, (parse_phrase Phrase.ratio grouped shallow _ (by decide +kernel)).1⟩

end MetricQuery
