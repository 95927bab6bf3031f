import MetricQuery.Syntax.Builtin
import MetricQuery.Syntax.Operator

/-!
Grammar symbols: the kinds of syntax tree nodes. Punctuation has no node of its own.
-/

set_option autoImplicit false

namespace MetricQuery

/-- Kind of a syntax tree node. -/
inductive NodeKind where
  /-- The root of every tree. -/
  | query
  | expr
  | aggregateExpr
  | aggregateOp
  | aggregator (op : Aggregator)
  | aggregateModifier
  | keywordBy
  | keywordWithout
  | groupingLabels
  | groupingLabelList
  | groupingLabel
  | labelName
  | binaryExpr
  | operator (op : BinaryOp)
  | binModifiers
  | keywordBool
  | keywordOn
  | keywordIgnoring
  | keywordGroupLeft
  | keywordGroupRight
  | functionCall
  | functionIdentifier
  | function (f : QueryFunction)
  | functionCallBody
  | functionCallArgs
  | parenExpr
  | offsetExpr
  | keywordOffset
  | matrixSelector
  | subqueryExpr
  | unaryExpr
  | unaryOp
  | vectorSelector
  | metricIdentifier
  | identifier
  | labelMatchers
  | labelMatchList
  | labelMatcher
  | matchOp
  | matchSymbol (op : MatchOp)
  | stringLiteral
  | numberLiteral
  | duration
  /-- Input that fits nowhere, or, with an empty range, something that is missing. -/
  | error
  deriving DecidableEq, Repr

namespace NodeKind

/-- Every kind that carries no operator or function. -/
def plain : List NodeKind :=
  [.query, .expr, .aggregateExpr, .aggregateOp, .aggregateModifier, .keywordBy, .keywordWithout,
    .groupingLabels, .groupingLabelList, .groupingLabel, .labelName, .binaryExpr, .binModifiers,
    .keywordBool, .keywordOn, .keywordIgnoring, .keywordGroupLeft, .keywordGroupRight,
    .functionCall, .functionIdentifier, .functionCallBody, .functionCallArgs, .parenExpr,
    .offsetExpr, .keywordOffset, .matrixSelector, .subqueryExpr, .unaryExpr, .unaryOp,
    .vectorSelector, .metricIdentifier, .identifier, .labelMatchers, .labelMatchList,
    .labelMatcher, .matchOp, .stringLiteral, .numberLiteral, .duration, .error]

/-- Whether the kind stands for something wrong. -/
def isError : NodeKind → Bool
  | .error => true
  | _ => false

/-- The name in a rendered tree. -/
def label : NodeKind → String
  | .query => "PromQL"
  | .expr => "Expr"
  | .aggregateExpr => "AggregateExpr"
  | .aggregateOp => "AggregateOp"
  | .aggregator op => op.label
  | .aggregateModifier => "AggregateModifier"
  | .keywordBy => "By"
  | .keywordWithout => "Without"
  | .groupingLabels => "GroupingLabels"
  | .groupingLabelList => "GroupingLabelList"
  | .groupingLabel => "GroupingLabel"
  | .labelName => "LabelName"
  | .binaryExpr => "BinaryExpr"
  | .operator op => op.label
  | .binModifiers => "BinModifiers"
  | .keywordBool => "Bool"
  | .keywordOn => "On"
  | .keywordIgnoring => "Ignoring"
  | .keywordGroupLeft => "GroupLeft"
  | .keywordGroupRight => "GroupRight"
  | .functionCall => "FunctionCall"
  | .functionIdentifier => "FunctionIdentifier"
  | .function f => f.label
  | .functionCallBody => "FunctionCallBody"
  | .functionCallArgs => "FunctionCallArgs"
  | .parenExpr => "ParenExpr"
  | .offsetExpr => "OffsetExpr"
  | .keywordOffset => "Offset"
  | .matrixSelector => "MatrixSelector"
  | .subqueryExpr => "SubqueryExpr"
  | .unaryExpr => "UnaryExpr"
  | .unaryOp => "UnaryOp"
  | .vectorSelector => "VectorSelector"
  | .metricIdentifier => "MetricIdentifier"
  | .identifier => "Identifier"
  | .labelMatchers => "LabelMatchers"
  | .labelMatchList => "LabelMatchList"
  | .labelMatcher => "LabelMatcher"
  | .matchOp => "MatchOp"
  | .matchSymbol op => op.label
  | .stringLiteral => "StringLiteral"
  | .numberLiteral => "NumberLiteral"
  | .duration => "Duration"
  | .error => "⚠"

end NodeKind

end MetricQuery
