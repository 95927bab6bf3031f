import MetricQuery.Order.Stable
import MetricQuery.Syntax.Stream
import MetricQuery.Token.Scan

/-!
From tokens to a syntax tree. Parsing never fails: a token that fits nowhere becomes an error
node over it, and something that is missing becomes an empty error node where it was expected.
Binary operators are read by precedence climbing. Expressions nest at most `maxDepth` deep; below
that, whatever is left is one error.

A production takes `sub`, the parser of the expressions inside it, and returns its node with what
is left to read. The loops read a token or more at each step, so as many steps as there are
tokens see them all.
-/

set_option autoImplicit false

namespace MetricQuery

namespace Parser

/-- The parser of nested expressions: least binding power of binary operators, then the stream. -/
abbrev Sub := Nat → Stream → Node × Stream

/-- How deep expressions nest before the rest of the input is given up. -/
def maxDepth : Nat := 128

/-- A piece of a bracketed list: an item of it, or something that does not belong there. -/
inductive Part where
  | item (node : Node)
  | stray (node : Node)
  deriving Repr

/-- The item, if the part is one. -/
def Part.item? : Part → Option Node
  | .item node => some node
  | .stray _ => none

/-- The stray node, if the part is one. -/
def Part.stray? : Part → Option Node
  | .item _ => none
  | .stray node => some node

/-- Extends a list, nested to the left, by one item. -/
def pushItem (list : NodeKind) (before : Option Node) (item : Node) : Node :=
  .branch list item.start item.stop (before.toList ++ [item])

/-- The nested list of items; none when there are no items. -/
def chain (list : NodeKind) (items : List Node) : Option Node :=
  items.foldl (fun before item => some (pushItem list before item)) none

/-- Whether a node comes before another in source order, or at the same place. -/
def sourceLe (a b : Node) : Bool :=
  a.start < b.start || (a.start == b.start && a.stop ≤ b.stop)

/-- Sorts siblings into source order; nodes at the same place keep their order. -/
def ordered (ns : List Node) : List Node := stableSort sourceLe ns

/-- The children of a bracketed list: its nested items and everything stray, in source order. -/
def listChildren (list : NodeKind) (parts : List Part) : List Node :=
  ordered ((chain list (parts.filterMap Part.item?)).toList ++ parts.filterMap Part.stray?)

/-- Labels up to the closing parenthesis, each with the comma after it. -/
def groupingParts : Nat → Stream → List Part × Stream
  | 0, s => ([], s)
  | steps + 1, s =>
    match s.kind with
    | .rightParen => ([], s.advance)
    | .endOfInput => ([], s)
    | .ident _ =>
      let (name, s) := s.leaf .labelName
      let (parts, s) := groupingParts steps (s.skip .comma)
      (.item (.wrap .groupingLabel name) :: parts, s)
    | _ =>
      let (error, s) := s.leaf .error
      let (parts, s) := groupingParts steps s
      (.stray error :: parts, s)

/-- `( label, … )` -/
def groupingLabels (s : Stream) : Node × Stream :=
  let start := s.current.start
  let (parts, s) := groupingParts s.advance.rest.length s.advance
  (.branch .groupingLabels start s.last (listChildren .groupingLabelList parts), s)

/-- `( label, … )` where it is expected; an empty error when no parenthesis opens. -/
def expectGroupingLabels (s : Stream) : Node × Stream :=
  if s.kind = .leftParen then groupingLabels s else (s.missing, s)

/-- The value of a matcher; where another one or the end of the matchers follows, it is missing. -/
def matcherValue (s : Stream) : Node × Stream :=
  match s.kind with
  | .string _ _ => s.leaf .stringLiteral
  | .comma | .rightBrace | .endOfInput => (s.missing, s)
  | _ => s.leaf .error

/-- The operator and the value of a matcher, or what there is of them. -/
def comparison (s : Stream) : List Node × Stream :=
  match s.matchOp? with
  | some op =>
    let (symbol, s) := s.leaf (.matchSymbol op)
    let (value, s) := matcherValue s
    ([.wrap .matchOp symbol, value], s)
  | none =>
    match s.kind with
    | .comma | .rightBrace | .endOfInput | .ident _ => ([s.missing], s)
    | _ =>
      let (error, s) := s.leaf .error
      match s.kind with
      | .string _ _ =>
        let (value, s) := s.leaf .stringLiteral
        ([error, value], s)
      | _ => ([error], s)

/-- `label op "value"`, or what there is of it. -/
def labelMatcher (s : Stream) : Node × Stream :=
  let (name, s) := s.leaf .labelName
  let (children, s) := comparison s
  (.branch .labelMatcher name.start name.stop (name :: children), s)

/-- Matchers up to the closing brace, each with the comma after it. -/
def matcherParts : Nat → Stream → List Part × Stream
  | 0, s => ([], s)
  | steps + 1, s =>
    match s.kind with
    | .rightBrace => ([], s.advance)
    | .endOfInput => ([], s)
    | .ident _ =>
      let (matcher, s) := labelMatcher s
      let (parts, s) := matcherParts steps (s.skip .comma)
      (.item matcher :: parts, s)
    | _ =>
      let (error, s) := s.leaf .error
      let (parts, s) := matcherParts steps s
      (.stray error :: parts, s)

/-- A brace, matchers and a closing brace. -/
def labelMatchers (s : Stream) : Node × Stream :=
  let start := s.current.start
  let (parts, s) := matcherParts s.advance.rest.length s.advance
  (.branch .labelMatchers start s.last (listChildren .labelMatchList parts), s)

/-- A metric name and the matchers after it, if any. -/
def vectorSelector (s : Stream) : Node × Stream :=
  let (name, s) := s.leaf .identifier
  let metric := Node.wrap .metricIdentifier name
  if s.kind = .leftBrace then
    let (matchers, s) := labelMatchers s
    (.wrap .expr (.branch .vectorSelector name.start name.stop [metric, matchers]), s)
  else (.wrap .expr (.branch .vectorSelector name.start name.stop [metric]), s)

/-- An expression where one is expected; an empty error when none starts. -/
def expectExpr (sub : Sub) (least : Nat) (s : Stream) : Node × Stream :=
  if s.startsExpr then sub least s else (s.missing, s)

/-- Whether a kind ends an argument. -/
def endsArgument : Token.Kind → Bool
  | .comma | .rightParen => true
  | _ => false

/-- An argument; what stands for a missing one does not belong to the list. -/
def argument (sub : Sub) (s : Stream) : Part × Stream :=
  if s.startsExpr then
    let (expr, s) := sub 0 s
    (.item expr, s)
  else (.stray s.missing, s)

/-- Arguments up to the closing parenthesis; there is one after every comma. -/
def callParts (sub : Sub) : Nat → Stream → List Part × Stream
  | 0, s => ([], s)
  | steps + 1, s =>
    let (argument, s) := argument sub s
    let (strays, s) := s.strays endsArgument
    let parts := argument :: strays.map .stray
    match s.kind with
    | .comma =>
      let (more, s) := callParts sub steps s.advance
      (parts ++ more, s)
    | .rightParen => (parts, s.advance)
    | _ => (parts, s)

/-- What stands between the parentheses of a call, and the closing one. -/
def arguments (sub : Sub) (s : Stream) : List Part × Stream :=
  if s.kind = .rightParen then ([], s.advance) else callParts sub (s.rest.length + 1) s

/-- `( expr, … )` -/
def callBody (sub : Sub) (s : Stream) : Node × Stream :=
  let start := s.current.start
  let (parts, s) := arguments sub s.advance
  (.branch .functionCallBody start s.last (listChildren .functionCallArgs parts), s)

/-- `name( expr, … )`, where the name may be of no built-in function. -/
def functionCall (sub : Sub) (name : String) (s : Stream) : Node × Stream :=
  let kind : NodeKind :=
    match QueryFunction.ofName? name with
    | some f => .function f
    | none => .identifier
  let (ident, s) := s.leaf kind
  let (body, s) := callBody sub s
  (.wrap .expr (.branch .functionCall ident.start ident.stop
    [.wrap .functionIdentifier ident, body]), s)

/-- `by ( label, … )` or `without ( label, … )` -/
def aggregateModifier (s : Stream) : Node × Stream :=
  let (keyword, s) := s.leaf (if s.atKeyword "by" then .keywordBy else .keywordWithout)
  let (labels, s) := expectGroupingLabels s
  (.branch .aggregateModifier keyword.start keyword.start [keyword, labels], s)

/-- A grouping before the body of an aggregation. -/
def earlyGrouping (s : Stream) : List Node × Stream :=
  if s.atGrouping then
    let (modifier, s) := aggregateModifier s
    ([modifier], s)
  else ([], s)

/-- What follows the body of an aggregation: its grouping, when there was none before. An
identifier after it is most likely a grouping being typed and stays with the aggregation. -/
def lateGrouping (early : Bool) (s : Stream) : List Node × Stream :=
  if !early && s.atGrouping then
    let (modifier, s) := aggregateModifier s
    ([modifier], s)
  else if s.atStrayIdent then
    let (error, s) := s.stray
    ([error], s)
  else ([], s)

/-- The body of an aggregation; an empty error when no parenthesis opens. -/
def expectCallBody (sub : Sub) (s : Stream) : Node × Stream :=
  if s.kind = .leftParen then callBody sub s else (s.missing, s)

/-- An aggregation with its grouping before or after the body. -/
def aggregate (sub : Sub) (op : Aggregator) (s : Stream) : Node × Stream :=
  let (symbol, s) := s.leaf (.aggregator op)
  let early := s.atGrouping
  let (before, s) := earlyGrouping s
  let (body, s) := expectCallBody sub s
  let (after, s) := lateGrouping early s
  (.wrap .expr (.branch .aggregateExpr symbol.start symbol.stop
    (.wrap .aggregateOp symbol :: before ++ body :: after)), s)

/-- Whether a kind closes a parenthesis. -/
def closesParen : Token.Kind → Bool
  | .rightParen => true
  | _ => false

/-- `( expr )` -/
def paren (sub : Sub) (s : Stream) : Node × Stream :=
  let start := s.current.start
  let s := s.advance
  let (inner, s) := expectExpr sub 0 s
  let (strays, s) := s.strays closesParen
  let s := s.skip .rightParen
  (.wrap .expr (.branch .parenExpr start s.last (inner :: strays)), s)

/-- What an identifier starts: an aggregation, a call, a number or a selector. -/
def identExpr (sub : Sub) (name : String) (s : Stream) : Node × Stream :=
  let next := s.second
  let aggregation? : Option Aggregator :=
    if next.kind = .leftParen || next.isKeyword "by" || next.isKeyword "without" then
      Aggregator.ofName? name
    else none
  match aggregation? with
  | some op => aggregate sub op s
  | none =>
    if next.kind = .leftParen then functionCall sub name s
    else if s.atKeyword "inf" || s.atKeyword "nan" then
      let (literal, s) := s.leaf .numberLiteral
      (.wrap .expr literal, s)
    else vectorSelector s

/-- An expression without operators, ranges or offsets. -/
def primary (sub : Sub) (s : Stream) : Node × Stream :=
  match s.kind with
  | .number _ =>
    let (literal, s) := s.leaf .numberLiteral
    (.wrap .expr literal, s)
  | .string _ _ =>
    let (literal, s) := s.leaf .stringLiteral
    (.wrap .expr literal, s)
  | .leftParen => paren sub s
  | .leftBrace =>
    let (matchers, s) := labelMatchers s
    (.wrap .expr (.wrap .vectorSelector matchers), s)
  | .ident name => identExpr sub name s
  | _ => (s.missing, s)

/-- The duration of a range; a number or a name in its place is an error over it. -/
def rangeDuration (s : Stream) : Node × Stream :=
  match s.kind with
  | .duration _ => s.leaf .duration
  | .number _ | .ident _ => s.leaf .error
  | _ => (s.missing, s)

/-- The step of a subquery, which may be left out. -/
def rangeStep (s : Stream) : List Node × Stream :=
  match s.kind with
  | .duration _ =>
    let (step, s) := s.leaf .duration
    ([step], s)
  | .number _ =>
    let (error, s) := s.leaf .error
    ([error], s)
  | _ => ([], s)

/-- `[range]` or `[range:step]` after an expression. -/
def range (expr : Node) (s : Stream) : Node × Stream :=
  let (duration, s) := rangeDuration s.advance
  let subquery := s.kind = .colon
  let (step, s) : List Node × Stream := if subquery then rangeStep s.advance else ([], s)
  let s := s.skip .rightBracket
  let kind : NodeKind := if subquery then .subqueryExpr else .matrixSelector
  (.wrap .expr (.branch kind expr.start s.last (expr :: duration :: step)), s)

/-- Whether a kind is a duration. -/
def isDuration : Token.Kind → Bool
  | .duration _ => true
  | _ => false

/-- The duration of an offset, a minus before it included; a number in its place is an error over
it. -/
def offsetDuration (s : Stream) : Node × Stream :=
  let start := s.current.start
  let s := if s.kind = .minus && isDuration s.second.kind then s.advance else s
  match s.kind with
  | .duration _ => (.leaf .duration start s.current.stop, s.advance)
  | .number _ => s.leaf .error
  | _ => (s.missing, s)

/-- `offset duration` after an expression. -/
def offset (expr : Node) (s : Stream) : Node × Stream :=
  let (keyword, s) := s.leaf .keywordOffset
  let (duration, s) := offsetDuration s
  (.wrap .expr (.branch .offsetExpr expr.start s.last [expr, keyword, duration]), s)

/-- Ranges and offsets after an expression. -/
def postfixes : Nat → Node → Stream → Node × Stream
  | 0, expr, s => (expr, s)
  | steps + 1, expr, s =>
    if s.kind = .leftBracket then
      let (expr, s) := range expr s
      postfixes steps expr s
    else if s.atKeyword "offset" then
      let (expr, s) := offset expr s
      postfixes steps expr s
    else (expr, s)

/-- An expression with its ranges and offsets, but without operators. -/
def operand (sub : Sub) (s : Stream) : Node × Stream :=
  let (expr, s) := primary sub s
  if expr.kind = .error then (expr, s) else postfixes s.rest.length expr s

/-- An operand, or a sign and what it applies to; of the binary operators only `^` binds tighter
than a sign. -/
def unary (sub : Sub) (s : Stream) : Node × Stream :=
  if s.kind = .plus || s.kind = .minus then
    let (sign, s) := s.leaf .unaryOp
    let (inner, s) := expectExpr sub BinaryOp.pow.precedence s
    (.wrap .expr (.branch .unaryExpr sign.start sign.stop [sign, inner]), s)
  else operand sub s

/-- `group_left ( label, … )` or `group_right ( label, … )`, the labels of which may be left
out. -/
def groupClause (s : Stream) : List Node × Stream :=
  let side? : Option NodeKind :=
    if s.atKeyword "group_left" then some .keywordGroupLeft
    else if s.atKeyword "group_right" then some .keywordGroupRight
    else none
  match side? with
  | none => ([], s)
  | some side =>
    let (keyword, s) := s.leaf side
    if s.kind = .leftParen then
      let (labels, s) := groupingLabels s
      ([keyword, labels], s)
    else ([keyword], s)

/-- `on ( label, … )` or `ignoring ( label, … )`, and the group clause after it. -/
def matchingClause (s : Stream) : List Node × Stream :=
  let matching? : Option NodeKind :=
    if s.atKeyword "on" then some .keywordOn
    else if s.atKeyword "ignoring" then some .keywordIgnoring
    else none
  match matching? with
  | none => ([], s)
  | some matching =>
    let (keyword, s) := s.leaf matching
    let (labels, s) := expectGroupingLabels s
    let (group, s) := groupClause s
    (keyword :: labels :: group, s)

/-- `bool`, if it is there. -/
def boolFlag (s : Stream) : List Node × Stream :=
  if s.atKeyword "bool" then
    let (keyword, s) := s.leaf .keywordBool
    ([keyword], s)
  else ([], s)

/-- The modifiers of a binary operator; no node when there are none. -/
def binModifiers (s : Stream) : List Node × Stream :=
  let (bool, s) := boolFlag s
  let (matching, s) := matchingClause s
  match bool ++ matching with
  | [] => ([], s)
  | first :: more => ([.branch .binModifiers first.start first.start (first :: more)], s)

/-- An operator after `lhs`, with its modifiers and its right operand. -/
def binary (sub : Sub) (op : BinaryOp) (lhs : Node) (s : Stream) : Node × Stream :=
  let (symbol, s) := s.leaf (.operator op)
  let (modifiers, s) := binModifiers s
  let (rhs, s) := expectExpr sub op.rightPrecedence s
  (.wrap .expr (.branch .binaryExpr lhs.start lhs.start (lhs :: symbol :: modifiers ++ [rhs])), s)

/-- Binary operators after `lhs` that bind at least as tight as `least`. -/
def binaries (sub : Sub) (least : Nat) : Nat → Node → Stream → Node × Stream
  | 0, lhs, s => (lhs, s)
  | steps + 1, lhs, s =>
    match s.binaryOp? with
    | none => (lhs, s)
    | some op =>
      if op.precedence < least then (lhs, s)
      else
        let (lhs, s) := binary sub op lhs s
        binaries sub least steps lhs s

/-- An expression, `depth` levels above the deepest. -/
def expr : Nat → Sub
  | 0, _, s => s.swallow
  | depth + 1, least, s =>
    let (lhs, s) := unary (expr depth) s
    binaries (expr depth) least s.rest.length lhs s

/-- Whether a kind ends the whole input: none does but its end. -/
def endsNothing (_ : Token.Kind) : Bool := false

/-- The expression at the start of the input, if one starts there. -/
def topExpr (s : Stream) : List Node × Stream :=
  if s.startsExpr then
    let (e, s) := expr maxDepth 0 s
    ([e], s)
  else ([], s)

/-- The root: an expression if one starts, and everything that is left over as errors. -/
def query (s : Stream) (size : Nat) : Node :=
  let (exprs, s) := topExpr s
  .branch .query 0 size (exprs ++ (s.strays endsNothing).1)

end Parser

namespace SyntaxTree

/-- The tree of `text`, given its tokens or the first few of them. -/
def ofTokens (tokens : List Token) (text : Text) : SyntaxTree where
  text := text
  root := Parser.query (.ofTokens tokens (Text.size text)) (Text.size text)

/-- The tree of a text. -/
def parse (text : Text) : SyntaxTree := ofTokens (Token.scan text) text

end SyntaxTree

end MetricQuery
