import MetricQuery.Completion.Context
import MetricQuery.Syntax.Path
import MetricQuery.Text.Blank

/-!
Which contexts apply at a position, and which text a suggestion replaces. Half-typed input is the
normal case, so many rules look at error nodes and at what stands before them. The cursor is the
innermost node that ends at the position or holds it.
-/

set_option autoImplicit false

namespace MetricQuery

namespace Node

/-- The expression that a node is, or that its last argument is. -/
def endingExpr? (n : Node) : Option Node :=
  match n.kind with
  | .expr => some n
  | .functionCallArgs => n.last?.filter (·.kind == .expr)
  | _ => none

/-- Whether `offset` may follow an expression. -/
def acceptsOffset (n : Node) : Bool :=
  let inner := if n.kind = .expr then n.first? else some n
  match inner.map kind with
  | some .vectorSelector | some .matrixSelector | some .subqueryExpr => true
  | _ => false

/-- Whether an expression is nothing but a metric name spelled like an aggregation. -/
def isBareAggregator (source : Text) (n : Node) : Bool :=
  match n.first?.filter (·.kind == .vectorSelector) with
  | some selector =>
    selector.children.length == 1 &&
      ((selector.metricNode?.map fun m => (Aggregator.ofName? (m.text source)).isSome).getD false)
  | none => false

/-- The expression at the end of the last child that ends at `pos` or before, when nothing but
blanks stands between the expression and `pos`. -/
def exprBefore? (source : Text) (pos : Nat) (n : Node) : Option Node :=
  ((n.children.reverse.find? (·.stop ≤ pos)).bind endingExpr?).filter fun e =>
    match Text.slice? source e.stop pos with
    | some gap => (Text.trim gap).isEmpty
    | none => false

end Node

namespace Completion

/-- Contexts of the given kinds, in this order. -/
def ofKinds (kinds : List ContextKind) : List Context := kinds.map .ofKind

/-- Nothing is there yet: any expression may start. -/
def expressionStart : List Context := ofKinds [.metricName, .function, .aggregation]

/-- An expression is complete: an operator may follow, or `offset` after a selector. -/
def continuation (expr : Node) : List Context :=
  ofKinds (.binOp :: if expr.acceptsOffset then [.offset] else [])

/-- After an expression inside `n`, or where one may start. -/
def insideBrackets (source : Text) (pos : Nat) (n : Node) : List Context :=
  match n.exprBefore? source pos with
  | some expr => continuation expr
  | none => expressionStart

/-- The expression right before an error node. -/
def precedingExpr? (error : Cursor) : Option Node := error.prev?.bind fun c => c.node.endingExpr?

/-- An identifier that fits nowhere. Behind an aggregation it may start a grouping or an
operator; behind another expression it may start what continues that one. -/
def strayIdentifier (source : Text) (identifier : Cursor) : List Context :=
  match identifier.parent? with
  | none => []
  | some error =>
    if error.parentKind? = some .aggregateExpr then ofKinds [.aggregateOpModifier, .binOp]
    else
      match precedingExpr? error with
      | none => []
      | some expr =>
        ofKinds (if expr.isBareAggregator source then [.aggregateOpModifier] else []) ++
          continuation expr

/-- Whether an identifier stands in the right operand of a binary expression without errors; it
may then be a modifier of the operator. -/
def inRightOperand (identifier : Node) (binary : Node) : Bool :=
  binary.kind = .binaryExpr && !binary.children.any (·.kind.isError) &&
    (match binary.last? with
      | some rhs => rhs.start ≤ identifier.start && identifier.stop ≤ rhs.stop
      | none => false)

/-- The name of a metric, or the start of a function, an aggregation or a modifier. The binary
expression, if there is one, is four steps up. -/
def metricIdentifier (source : Text) (identifier : Cursor) : List Context :=
  let modifier : List ContextKind :=
    match identifier.ancestor? 4 with
    | some c => if inRightOperand identifier.node c.node then [.binOpModifier] else []
    | none => []
  { Context.ofKind .metricName with metric := some (identifier.node.text source) } ::
    ofKinds ([.function, .aggregation] ++ modifier)

/-- The metric name of the selector around a node. -/
def metricName? (source : Text) (c : Cursor) : Option String :=
  (c.enclosing? .vectorSelector).bind fun selector =>
    selector.node.metricNode?.map (Node.text source)

/-- A label name within the selector around a node. -/
def labelName (source : Text) (c : Cursor) : List Context :=
  [{ Context.ofKind .labelName with metric := metricName? source c }]

/-- The matchers of the selector around a matcher, that one apart. -/
def otherMatchers (source : Text) (matcher : Cursor) : List Matcher :=
  match (matcher.enclosing? .labelMatchers).bind fun c => c.child? .labelMatchList with
  | some list =>
    ((list.items .labelMatchList .labelMatcher).filter (·.path != matcher.path)).map fun m =>
      Matcher.ofNode source m.node
  | none => []

/-- A value of the label of the matcher around a literal. -/
def labelValue (source : Text) (literal : Cursor) : List Context :=
  match literal.parent? with
  | none => []
  | some matcher =>
    [{ kind := .labelValue
       metric := metricName? source matcher
       label := (matcher.node.child? .labelName).map (Node.text source)
       matchers := Context.nonEmpty (otherMatchers source matcher) }]

/-- Whether a kind is that of a node which holds a duration. -/
def holdsDuration : NodeKind → Bool
  | .offsetExpr | .matrixSelector | .subqueryExpr => true
  | _ => false

/-- The contexts that apply at `pos`, given the innermost node there. -/
def contexts (source : Text) (c : Cursor) (pos : Nat) : List Context :=
  let n := c.node
  let parent := c.parentKind?
  match n.kind with
  | .query | .parenExpr | .functionCallBody => insideBrackets source pos n
  | .identifier =>
    match parent with
    | some .error => strayIdentifier source c
    | some .metricIdentifier => metricIdentifier source c
    | some .functionIdentifier => ofKinds [.function]
    | _ => []
  | .function _ => ofKinds [.function]
  | .aggregator _ => ofKinds [.aggregation]
  | .groupingLabels => ofKinds [.labelName]
  | .labelName =>
    match parent with
    | some .groupingLabel => ofKinds [.labelName]
    | some .labelMatcher => labelName source c
    | _ => []
  | .labelMatchers => labelName source c
  | .stringLiteral => if parent = some .labelMatcher then labelValue source c else []
  | .matchOp | .matchSymbol _ => ofKinds [.matchOp]
  | .operator _ => ofKinds [.binOp]
  | .error =>
    if parent = some .labelMatcher then ofKinds [.matchOp]
    else if (parent.map holdsDuration).getD false then ofKinds [.duration]
    else if (precedingExpr? c).isSome then ofKinds [.binOp]
    else []
  | .duration | .offsetExpr => ofKinds [.duration]
  | .matrixSelector | .subqueryExpr =>
    if pos = n.stop ∧ (n.text source).toList.getLast? = some ']' then continuation n
    else ofKinds [.duration]
  | .keywordOffset => ofKinds [.offset]
  | .keywordBy | .keywordWithout | .aggregateModifier => ofKinds [.aggregateOpModifier]
  | .keywordOn | .keywordIgnoring | .keywordGroupLeft | .keywordGroupRight | .keywordBool
  | .binModifiers => ofKinds [.binOpModifier]
  | .binaryExpr =>
    if n.last?.any (·.kind.isError) then
      ofKinds [.metricName, .function, .aggregation, .binOpModifier]
    else []
  | _ => []

/-- Where the text starts that a suggestion at `pos` replaces, given the innermost node there. An
empty pair of brackets keeps its opening one. -/
def replacementStart (c : Cursor) (pos : Nat) : Nat :=
  let n := c.node
  let parent := c.parentKind?
  match n.kind with
  | .labelMatchers | .groupingLabels | .functionCallBody =>
    if n.children.isEmpty then n.start + 1 else pos
  | .stringLiteral => if parent = some .labelMatcher then n.start + 1 else n.start
  | .offsetExpr | .duration | .matrixSelector | .subqueryExpr | .query | .binaryExpr
  | .parenExpr => pos
  | .error => if (parent.map holdsDuration).getD false then pos else n.start
  | _ => n.start

/-- The contexts that apply at `pos` of a query. -/
def analyze (t : SyntaxTree) (pos : Nat) : List Context :=
  contexts t.text (t.resolve pos .before) pos

end Completion

end MetricQuery
