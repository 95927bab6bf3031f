import MetricQuery.Proofs.Shape

/-!
Abstract expressions: what the language is made of before it is written down. A phrase has the
kinds of the tokens it is written as and the shape of the tree it stands for. Names and keywords
carry what keeps them apart.
-/

set_option autoImplicit false

namespace MetricQuery

namespace Token.Kind

/-- Whether a token of the kind is the identifier `word`, in any case of its letters. -/
def isWord (word : String) : Kind → Bool
  | .ident name => Text.sameLetters name.toList word.toList
  | _ => false

/-- The binary operator that a token of the kind is. -/
def binaryOp? (kind : Kind) : Option BinaryOp := (Stream.mk [⟨kind, ⟨0, 0⟩⟩] 0 0).binaryOp?

end Token.Kind

namespace Phrase

/-- Words that mean something of their own where a name might stand. -/
def reserved : List String :=
  ["and", "or", "unless", "offset", "bool", "on", "ignoring", "group_left", "group_right", "by",
    "without", "inf", "nan"]

/-- A name of a metric, a function or a label. -/
structure Name where
  text : String
  free : ∀ word ∈ reserved, Text.sameLetters text.toList word.toList = false

/-- A name of a function: not one of an aggregation. -/
structure FunctionName extends Name where
  calls : Aggregator.ofName? text = none

/-- A name of an aggregation, in any case of its letters. -/
structure AggregatorName where
  text : String
  op : Aggregator
  known : Aggregator.ofName? text = some op

/-- A keyword, in any case of its letters. -/
structure Keyword (word : String) where
  text : String
  spells : Text.sameLetters text.toList word.toList = true

/-- One of two keywords. -/
inductive Choice (one other : String) where
  | one (word : Keyword one)
  | other (word : Keyword other)

/-- The token of a binary operator. -/
structure Operator where
  kind : Token.Kind
  op : BinaryOp
  reads : kind.binaryOp? = some op

/-- A comparison of a label with a string. -/
structure Condition where
  label : Name
  op : MatchOp
  value : String

/-- Labels after a keyword. -/
structure Clause (one other : String) where
  word : Choice one other
  labels : List Name

/-- Where the grouping of an aggregation stands. -/
inductive Grouping where
  | none
  | before (clause : Clause "by" "without")
  | after (clause : Clause "by" "without")

/-- How the sides of a binary operator are paired. -/
structure Pairing where
  on : Clause "on" "ignoring"
  group : Option (Clause "group_left" "group_right")

/-- What stands between a binary operator and its right operand. -/
structure Modifiers where
  bool : Option (Keyword "bool")
  pairing : Option Pairing

/-- A sign before an expression. -/
inductive Sign where
  | plus
  | minus

end Phrase

open Phrase in
/-- Abstract expressions. -/
inductive Phrase where
  | number (text : String)
  /-- Infinity, or not a number. -/
  | constant (word : Choice "inf" "nan")
  | string (raw : String)
  | metric (name : Name)
  | selector (name : Option Name) (matchers : List Condition)
  | call (name : FunctionName) (args : List Phrase)
  | aggregate (name : AggregatorName) (grouping : Grouping) (args : List Phrase)
  | paren (inner : Phrase)
  | range (operand : Phrase) (length : String)
  | subquery (operand : Phrase) (length : String) (step : Option String)
  | offset (operand : Phrase) (word : Keyword "offset") (back : Bool) (length : String)
  | unary (sign : Sign) (operand : Phrase)
  | binary (left : Phrase) (op : Operator) (modifiers : Modifiers) (right : Phrase)

namespace Phrase

/-- Items with commas between them, and what closes them. -/
def closed (close : Token.Kind) : List (List Token.Kind) → List Token.Kind
  | [] => [close]
  | [item] => item ++ [close]
  | item :: next :: more => item ++ .comma :: closed close (next :: more)

namespace Choice

variable {one other : String}

def kind : Choice one other → Token.Kind
  | .one word => .ident word.text
  | .other word => .ident word.text

/-- The kind of the node of the keyword. -/
def pick (first second : NodeKind) : Choice one other → NodeKind
  | .one _ => first
  | .other _ => second

end Choice

def Name.kind (name : Name) : Token.Kind := .ident name.text

def Sign.kind : Sign → Token.Kind
  | .plus => .plus
  | .minus => .minus

def labelKinds (labels : List Name) : List Token.Kind :=
  .leftParen :: closed .rightParen (labels.map fun label => [label.kind])

def labelShape (labels : List Name) : Shape :=
  .bracketed .groupingLabels .groupingLabelList
    (labels.map fun _ => .mk .groupingLabel [.leaf .labelName])

def Clause.kinds {one other : String} (clause : Clause one other) : List Token.Kind :=
  clause.word.kind :: labelKinds clause.labels

def Clause.shapes {one other : String} (first second : NodeKind) (clause : Clause one other) :
    List Shape :=
  [.leaf (clause.word.pick first second), labelShape clause.labels]

def symbol : MatchOp → Token.Kind
  | .eqlSingle => .eq
  | .neq => .notEq
  | .eqlRegex => .eqTilde
  | .neqRegex => .notTilde

def Condition.kinds (m : Condition) : List Token.Kind :=
  [m.label.kind, symbol m.op, .string m.value true]

def Condition.shape (m : Condition) : Shape :=
  .mk .labelMatcher
    [.leaf .labelName, .mk .matchOp [.leaf (.matchSymbol m.op)], .leaf .stringLiteral]

def matcherKinds (matchers : List Condition) : List Token.Kind :=
  .leftBrace :: closed .rightBrace (matchers.map Condition.kinds)

def matcherShape (matchers : List Condition) : Shape :=
  .bracketed .labelMatchers .labelMatchList (matchers.map Condition.shape)

def Pairing.kinds (m : Pairing) : List Token.Kind :=
  m.on.kinds ++ (m.group.map Clause.kinds).getD []

def Pairing.shapes (m : Pairing) : List Shape :=
  m.on.shapes .keywordOn .keywordIgnoring ++
    (m.group.map (Clause.shapes .keywordGroupLeft .keywordGroupRight)).getD []

def Modifiers.kinds (m : Modifiers) : List Token.Kind :=
  (m.bool.map fun word => .ident word.text).toList ++ (m.pairing.map Pairing.kinds).getD []

/-- The children of the node of modifiers. -/
def Modifiers.parts (m : Modifiers) : List Shape :=
  (m.bool.map fun _ => .leaf .keywordBool).toList ++ (m.pairing.map Pairing.shapes).getD []

/-- The node of modifiers, if there are any. -/
def Modifiers.shapes (m : Modifiers) : List Shape :=
  if m.parts.isEmpty then [] else [.mk .binModifiers m.parts]

/-- Whether the grouping stands before the body. -/
def Grouping.isEarly : Grouping → Bool
  | .before _ => true
  | _ => false

/-- The tokens of a grouping before the body and behind it. -/
def Grouping.kinds : Grouping → List Token.Kind × List Token.Kind
  | .none => ([], [])
  | .before clause => (clause.kinds, [])
  | .after clause => ([], clause.kinds)

def Grouping.shapes : Grouping → List Shape × List Shape
  | .none => ([], [])
  | .before clause => ([.mk .aggregateModifier (clause.shapes .keywordBy .keywordWithout)], [])
  | .after clause => ([], [.mk .aggregateModifier (clause.shapes .keywordBy .keywordWithout)])

/-- A function that is known has a node kind of its own. -/
def FunctionName.shape (name : FunctionName) : Shape :=
  match QueryFunction.ofName? name.text with
  | some f => .leaf (.function f)
  | none => .leaf .identifier

mutual

/-- The tokens a phrase is written as. -/
def kinds : Phrase → List Token.Kind
  | number text => [.number text]
  | constant word => [word.kind]
  | string raw => [.string raw true]
  | metric name => [name.kind]
  | selector name matchers => (name.map Name.kind).toList ++ matcherKinds matchers
  | call name args => .ident name.text :: .leftParen :: closed .rightParen (kindsOf args)
  | aggregate name grouping args =>
    .ident name.text :: grouping.kinds.1 ++
      .leftParen :: closed .rightParen (kindsOf args) ++ grouping.kinds.2
  | paren inner => .leftParen :: inner.kinds ++ [.rightParen]
  | range operand length => operand.kinds ++ [.leftBracket, .duration length, .rightBracket]
  | subquery operand length step =>
    operand.kinds ++ .leftBracket :: .duration length :: .colon ::
      (step.map .duration).toList ++ [.rightBracket]
  | offset operand word back length =>
    operand.kinds ++ .ident word.text :: (if back then [.minus] else []) ++ [.duration length]
  | unary sign operand => sign.kind :: operand.kinds
  | binary left op modifiers right => left.kinds ++ op.kind :: modifiers.kinds ++ right.kinds

/-- The tokens of each of several phrases. -/
def kindsOf : List Phrase → List (List Token.Kind)
  | [] => []
  | e :: es => e.kinds :: kindsOf es

end

mutual

/-- What an expression is below its own node. -/
def form : Phrase → Shape
  | number _ | constant _ => .leaf .numberLiteral
  | string _ => .leaf .stringLiteral
  | metric _ => .mk .vectorSelector [.mk .metricIdentifier [.leaf .identifier]]
  | selector name matchers =>
    .mk .vectorSelector
      ((name.map fun _ => .mk .metricIdentifier [.leaf .identifier]).toList ++
        [matcherShape matchers])
  | call name args =>
    .mk .functionCall [.mk .functionIdentifier [name.shape],
      .bracketed .functionCallBody .functionCallArgs (shapesOf args)]
  | aggregate name grouping args =>
    .mk .aggregateExpr (.mk .aggregateOp [.leaf (.aggregator name.op)] :: grouping.shapes.1 ++
      .bracketed .functionCallBody .functionCallArgs (shapesOf args) :: grouping.shapes.2)
  | paren inner => .mk .parenExpr [.expr inner.form]
  | range operand _ => .mk .matrixSelector [.expr operand.form, .leaf .duration]
  | subquery operand _ step =>
    .mk .subqueryExpr (.expr operand.form :: .leaf .duration ::
      (step.map fun _ => .leaf .duration).toList)
  | offset operand _ _ _ =>
    .mk .offsetExpr [.expr operand.form, .leaf .keywordOffset, .leaf .duration]
  | unary _ operand => .mk .unaryExpr [.leaf .unaryOp, .expr operand.form]
  | binary left op modifiers right =>
    .mk .binaryExpr (.expr left.form :: .leaf (.operator op.op) :: modifiers.shapes ++
      [.expr right.form])

/-- The shapes of several phrases. -/
def shapesOf : List Phrase → List Shape
  | [] => []
  | e :: es => .expr e.form :: shapesOf es

end

/-- The shape of the tree of a phrase. -/
def shape (e : Phrase) : Shape := .expr e.form

mutual

/-- How deep expressions nest in a phrase, itself included. A left operand is not nested: it is
read before it is known to be one. -/
def nesting : Phrase → Nat
  | call _ args | aggregate _ _ args => nestingOf args + 1
  | paren inner => inner.nesting + 1
  | range operand _ | subquery operand _ _ | offset operand _ _ _ => operand.nesting
  | unary _ operand => operand.nesting + 1
  | binary left _ _ right => max left.nesting (right.nesting + 1)
  | _ => 1

/-- How deep the deepest of several phrases nests. -/
def nestingOf : List Phrase → Nat
  | [] => 0
  | e :: es => max e.nesting (nestingOf es)

end

/-- The binary operator on top of a phrase. -/
def top? : Phrase → Option BinaryOp
  | binary _ op _ _ => some op.op
  | _ => none

/-- Whether a phrase has no operator on top, so that ranges and offsets apply to all of it. -/
def isOperand : Phrase → Bool
  | unary _ _ | binary _ _ _ _ => false
  | _ => true

/-- Whether a phrase may stand to the left of an operator without parentheses. -/
def fitsLeft (op : BinaryOp) (e : Phrase) : Bool :=
  e.top?.all (fun q => op.precedence ≤ q.precedence) && (op != .pow || e.isOperand)

/-- Whether a phrase may stand to the right of an operator without parentheses. -/
def fitsRight (op : BinaryOp) (e : Phrase) : Bool :=
  e.top?.all fun q => op.precedence < q.precedence || op == .pow && q == .pow

mutual

/-- Whether parentheses stand wherever precedence needs them. -/
def isGrouped : Phrase → Bool
  | call _ args | aggregate _ _ args => areGrouped args
  | paren inner => inner.isGrouped
  | range operand _ | subquery operand _ _ | offset operand _ _ _ =>
    operand.isOperand && operand.isGrouped
  | unary _ operand => operand.top?.all (· == .pow) && operand.isGrouped
  | binary left op _ right =>
    left.fitsLeft op.op && right.fitsRight op.op && left.isGrouped && right.isGrouped
  | _ => true

/-- Whether parentheses stand wherever several phrases need them. -/
def areGrouped : List Phrase → Bool
  | [] => true
  | e :: es => e.isGrouped && areGrouped es

end

theorem kindsOf_eq_map (es : List Phrase) : kindsOf es = es.map kinds := by
  induction es with
  | nil => rfl
  | cons e es ih => rw [kindsOf, ih, List.map_cons]

theorem shapesOf_eq_map (es : List Phrase) : shapesOf es = es.map shape := by
  induction es with
  | nil => rfl
  | cons e es ih => rw [shapesOf, ih, List.map_cons, shape]

theorem nesting_le_nestingOf {e : Phrase} {es : List Phrase} (member : e ∈ es) :
    e.nesting ≤ nestingOf es := by
  induction es with
  | nil => cases member
  | cons first es ih =>
    rw [nestingOf]
    rcases List.mem_cons.mp member with rfl | member
    · exact Nat.le_max_left _ _
    · exact Nat.le_trans (ih member) (Nat.le_max_right _ _)

theorem areGrouped_iff {es : List Phrase} :
    areGrouped es = true ↔ ∀ e ∈ es, e.isGrouped = true := by
  induction es with
  | nil => simp [areGrouped]
  | cons e es ih => simp [areGrouped, ih]

theorem labelShape_isClean (labels : List Name) : (labelShape labels).isClean = true := by
  refine Shape.bracketed_isClean (by simp) (by simp) ?_
  simp

theorem matcherShape_isClean (matchers : List Condition) :
    (matcherShape matchers).isClean = true := by
  refine Shape.bracketed_isClean (by simp) (by simp) ?_
  simp [Condition.shape]

theorem Clause.shapes_areClean {one other : String} (clause : Clause one other)
    (first second : NodeKind) (validFirst : first ≠ .error) (validSecond : second ≠ .error) :
    (clause.shapes first second).all Shape.isClean = true := by
  have valid : clause.word.pick first second ≠ .error := by
    cases clause.word
    · exact validFirst
    · exact validSecond
  simp [Clause.shapes, labelShape_isClean, valid]

theorem Modifiers.shapes_areClean (m : Modifiers) : m.shapes.all Shape.isClean = true := by
  have parts : m.parts.all Shape.isClean = true := by
    obtain ⟨bool, pairing⟩ := m
    have flag : (bool.map fun _ => Shape.leaf .keywordBool).toList.all Shape.isClean = true := by
      cases bool <;> simp
    have clauses : ((pairing.map Pairing.shapes).getD []).all Shape.isClean = true := by
      cases pairing with
      | none => rfl
      | some pairing =>
        have on := pairing.on.shapes_areClean .keywordOn .keywordIgnoring (by simp) (by simp)
        cases found : pairing.group with
        | none => simpa [Pairing.shapes, found] using on
        | some group =>
          have side := group.shapes_areClean .keywordGroupLeft .keywordGroupRight (by simp)
            (by simp)
          rw [Option.map_some, Option.getD_some, Pairing.shapes, found, List.all_append, on]
          exact side
    rw [Modifiers.parts, List.all_append, flag, clauses]
    rfl
  rw [Modifiers.shapes]
  split
  · rfl
  · simpa using parts

theorem Grouping.shapes_areClean (grouping : Grouping) :
    grouping.shapes.1.all Shape.isClean = true ∧ grouping.shapes.2.all Shape.isClean = true := by
  cases grouping with
  | none => exact ⟨rfl, rfl⟩
  | before clause | after clause =>
    have clean := clause.shapes_areClean .keywordBy .keywordWithout (by simp) (by simp)
    simpa [Grouping.shapes] using clean

/-- The tree of a phrase has no error. -/
theorem form_isClean (e : Phrase) : e.form.isClean = true := by
  have arguments : ∀ args : List Phrase, (∀ arg ∈ args, arg.form.isClean = true) →
      (Shape.bracketed .functionCallBody .functionCallArgs (shapesOf args)).isClean = true := by
    intro args each
    refine Shape.bracketed_isClean (by simp) (by simp) ?_
    rw [shapesOf_eq_map, List.all_map, List.all_eq_true]
    intro arg member
    simpa [shape] using each arg member
  match e with
  | number _ | constant _ | string _ | metric _ => simp [form]
  | selector name matchers => cases name <;> simp [form, matcherShape_isClean]
  | call name args =>
    have body := arguments args fun arg _ => form_isClean arg
    have callee : name.shape.isClean = true := by
      rw [FunctionName.shape]
      split <;> simp
    simp [form, body, callee]
  | aggregate name grouping args =>
    have body := arguments args fun arg _ => form_isClean arg
    have clauses := grouping.shapes_areClean
    rw [form, Shape.isClean_mk, List.all_append, List.all_cons, List.all_cons, clauses.1, clauses.2,
      body]
    simp
  | paren inner => simp [form, form_isClean inner]
  | range operand _ => simp [form, form_isClean operand]
  | subquery operand _ step => cases step <;> simp [form, form_isClean operand]
  | offset operand _ _ _ => simp [form, form_isClean operand]
  | unary _ operand => simp [form, form_isClean operand]
  | binary left op modifiers right =>
    have flags := modifiers.shapes_areClean
    rw [form, Shape.isClean_mk, List.all_append, List.all_cons, List.all_cons, flags]
    simp [form_isClean left, form_isClean right]

end Phrase

end MetricQuery
