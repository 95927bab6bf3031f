import MetricQuery.Syntax.Arena
import MetricQuery.Syntax.Parser

/-!
The parser at work on an arena. What is left to read and the nodes made so far are its state; every
production makes its nodes there, one after another, and passes on where they are. A list is made
longer item by item while it is read, and what does not belong to it is kept aside. Work comes to
nothing when a node is asked for that was never made.
-/

set_option autoImplicit false

namespace MetricQuery

/-- The tokens still to be read, and the nodes made so far. -/
structure Site where
  stream : Stream
  arena : Arena

/-- Work that reads tokens and makes nodes. -/
abbrev Building := StateT Site Option

namespace Building

open MetricQuery.Parser (endsArgument closesParen endsNothing isDuration maxDepth)

variable {α : Type}

/-- Looks at the stream. -/
def look (f : Stream → α) : Building α := do
  return f (← get).stream

/-- Reads on. -/
def move (f : Stream → Stream) : Building Unit :=
  modify fun site => { site with stream := f site.stream }

def advance : Building Unit := move Stream.advance

def skip (kind : Token.Kind) : Building Unit := move (·.skip kind)

/-- Makes a node over `children`, its range widened until they fit. -/
def node (kind : NodeKind) (start stop : Nat) (children : List NodeId) : Building NodeId := do
  let site ← get
  let (id, arena) ← (site.arena.node kind start stop children : Option (NodeId × Arena))
  set { site with arena := arena }
  return id

def leaf (kind : NodeKind) (start stop : Nat) : Building NodeId := node kind start stop []

/-- Looks a node up. -/
def record (id : NodeId) : Building NodeRecord := do
  let site ← get
  (site.arena.nodes[id]? : Option NodeRecord)

def startOf (id : NodeId) : Building Nat := do
  return (← record id).start

def rangeOf (id : NodeId) : Building (Nat × Nat) := do
  let r ← record id
  return (r.start, r.stop)

/-- A node of another kind with exactly one child and the range of that child. -/
def wrap (kind : NodeKind) (inner : NodeId) : Building NodeId := do
  let (start, stop) ← rangeOf inner
  node kind start stop [inner]

/-- Reads the next token as a leaf. -/
def tokenLeaf (kind : NodeKind) : Building NodeId := do
  let token ← look Stream.current
  advance
  leaf kind token.start token.stop

/-- The leaf of something that is missing before the next token. -/
def missing : Building NodeId := do
  let token ← look Stream.current
  leaf .error token.start token.start

/-- Reads the next token as an error node; an identifier stays visible below it. -/
def errorToken : Building NodeId := do
  if (← look (·.current.ident?)).isSome then
    let ident ← tokenLeaf .identifier
    wrap .error ident
  else tokenLeaf .error

/-- Reads tokens as error nodes up to the first whose kind `stops`, or to the end. -/
def errorTokens (stops : Token.Kind → Bool) : Nat → Building (List NodeId)
  | 0 => return []
  | steps + 1 => do
    if ← look fun s => s.rest.isEmpty || stops s.kind then
      return []
    else
      let error ← errorToken
      let more ← errorTokens stops steps
      return error :: more

def strays (stops : Token.Kind → Bool) : Building (List NodeId) := do
  errorTokens stops (← look (·.rest.length))

/-- Reads everything left as one error leaf. -/
def swallow : Building NodeId := do
  let token ← look Stream.current
  move fun s => s.swallow.2
  leaf .error token.start (← look Stream.last)

/-- Extends a list, nested to the left, by one item. -/
def pushList (kind : NodeKind) (list : Option NodeId) (item : NodeId) : Building NodeId := do
  let (start, stop) ← rangeOf item
  node kind start stop (list.toList ++ [item])

/-- Whether a range comes before another in source order, or is the same. -/
def keyLe (a b : NodeId × Nat × Nat) : Bool :=
  a.2.1 < b.2.1 || (a.2.1 == b.2.1 && a.2.2 ≤ b.2.2)

/-- Sorts siblings into source order; nodes at the same place keep their order. -/
def ordered (ids : List NodeId) : Building (List NodeId) := do
  let keyed ← ids.mapM fun id => do
    let range ← rangeOf id
    return (id, range)
  return (stableSort keyLe keyed).map Prod.fst

/-- Ends a bracketed list: its nested items and everything aside, in source order. -/
def closeList (kind : NodeKind) (start : Nat) (list : Option NodeId) (aside : List NodeId) :
    Building NodeId := do
  let children ← ordered (list.toList ++ aside)
  node kind start (← look Stream.last) children

/-- Labels up to the closing parenthesis, each with the comma after it. -/
def groupingItems : Nat → Option NodeId → List NodeId → Building (Option NodeId × List NodeId)
  | 0, list, aside => return (list, aside)
  | steps + 1, list, aside => do
    match ← look Stream.kind with
    | .rightParen =>
      advance
      return (list, aside)
    | .endOfInput => return (list, aside)
    | .ident _ =>
      let name ← tokenLeaf .labelName
      let label ← wrap .groupingLabel name
      let list ← pushList .groupingLabelList list label
      skip .comma
      groupingItems steps (some list) aside
    | _ =>
      let error ← tokenLeaf .error
      groupingItems steps list (aside ++ [error])

/-- `( label, … )` -/
def groupingLabels : Building NodeId := do
  let token ← look Stream.current
  advance
  let (list, aside) ← groupingItems (← look (·.rest.length)) none []
  closeList .groupingLabels token.start list aside

def expectGroupingLabels : Building NodeId := do
  if (← look Stream.kind) = .leftParen then groupingLabels else missing

def matcherValue : Building NodeId := do
  match ← look Stream.kind with
  | .string _ _ => tokenLeaf .stringLiteral
  | .comma | .rightBrace | .endOfInput => missing
  | _ => tokenLeaf .error

/-- The operator and the value of a matcher, or what there is of them. -/
def comparison : Building (List NodeId) := do
  match ← look Stream.matchOp? with
  | some op =>
    let symbol ← tokenLeaf (.matchSymbol op)
    let op ← wrap .matchOp symbol
    let value ← matcherValue
    return [op, value]
  | none =>
    match ← look Stream.kind with
    | .comma | .rightBrace | .endOfInput | .ident _ => return [← missing]
    | _ =>
      let error ← tokenLeaf .error
      match ← look Stream.kind with
      | .string _ _ =>
        let value ← tokenLeaf .stringLiteral
        return [error, value]
      | _ => return [error]

/-- `label op "value"`, or what there is of it. -/
def labelMatcher : Building NodeId := do
  let name ← tokenLeaf .labelName
  let children ← comparison
  let (start, stop) ← rangeOf name
  node .labelMatcher start stop (name :: children)

/-- Matchers up to the closing brace, each with the comma after it. -/
def matcherItems : Nat → Option NodeId → List NodeId → Building (Option NodeId × List NodeId)
  | 0, list, aside => return (list, aside)
  | steps + 1, list, aside => do
    match ← look Stream.kind with
    | .rightBrace =>
      advance
      return (list, aside)
    | .endOfInput => return (list, aside)
    | .ident _ =>
      let matcher ← labelMatcher
      let list ← pushList .labelMatchList list matcher
      skip .comma
      matcherItems steps (some list) aside
    | _ =>
      let error ← tokenLeaf .error
      matcherItems steps list (aside ++ [error])

/-- A brace, matchers and a closing brace. -/
def labelMatchers : Building NodeId := do
  let token ← look Stream.current
  advance
  let (list, aside) ← matcherItems (← look (·.rest.length)) none []
  closeList .labelMatchers token.start list aside

/-- A metric name and the matchers after it, if any. -/
def vectorSelector : Building NodeId := do
  let name ← tokenLeaf .identifier
  let (start, stop) ← rangeOf name
  let metric ← node .metricIdentifier start stop [name]
  let matchers ← if (← look Stream.kind) = .leftBrace then pure [← labelMatchers] else pure []
  let selector ← node .vectorSelector start stop (metric :: matchers)
  wrap .expr selector

/-- The parser of nested expressions, given the least binding power of binary operators. -/
abbrev Sub := Nat → Building NodeId

def expectExpr (sub : Sub) (least : Nat) : Building NodeId := do
  if ← look Stream.startsExpr then sub least else missing

/-- An argument, at the end of the list or, when it is missing, aside. -/
def argument (sub : Sub) (list : Option NodeId) (aside : List NodeId) :
    Building (Option NodeId × List NodeId) := do
  if ← look Stream.startsExpr then
    let item ← sub 0
    let list ← pushList .functionCallArgs list item
    return (some list, aside)
  else
    let error ← missing
    return (list, aside ++ [error])

/-- Arguments up to the closing parenthesis; there is one after every comma. -/
def callItems (sub : Sub) :
    Nat → Option NodeId → List NodeId → Building (Option NodeId × List NodeId)
  | 0, list, aside => return (list, aside)
  | steps + 1, list, aside => do
    let (list, aside) ← argument sub list aside
    let errors ← strays endsArgument
    match ← look Stream.kind with
    | .comma =>
      advance
      callItems sub steps list (aside ++ errors)
    | .rightParen =>
      advance
      return (list, aside ++ errors)
    | _ => return (list, aside ++ errors)

def arguments (sub : Sub) : Building (Option NodeId × List NodeId) := do
  if (← look Stream.kind) = .rightParen then
    advance
    return (none, [])
  else callItems sub ((← look (·.rest.length)) + 1) none []

/-- `( expr, … )` -/
def callBody (sub : Sub) : Building NodeId := do
  let token ← look Stream.current
  advance
  let (list, aside) ← arguments sub
  closeList .functionCallBody token.start list aside

/-- `name( expr, … )`, where the name may be of no built-in function. -/
def functionCall (sub : Sub) (name : String) : Building NodeId := do
  let token ← look Stream.current
  let kind : NodeKind :=
    match QueryFunction.ofName? name with
    | some f => .function f
    | none => .identifier
  let ident ← tokenLeaf kind
  let identifier ← node .functionIdentifier token.start token.stop [ident]
  let body ← callBody sub
  let call ← node .functionCall token.start token.stop [identifier, body]
  wrap .expr call

/-- `by ( label, … )` or `without ( label, … )` -/
def aggregateModifier : Building NodeId := do
  let kind ← look fun s => if s.atKeyword "by" then NodeKind.keywordBy else .keywordWithout
  let keyword ← tokenLeaf kind
  let labels ← expectGroupingLabels
  let start ← startOf keyword
  node .aggregateModifier start start [keyword, labels]

def earlyGrouping : Building (List NodeId) := do
  if ← look Stream.atGrouping then
    return [← aggregateModifier]
  else return []

def lateGrouping (early : Bool) : Building (List NodeId) := do
  if ← look fun s => !early && s.atGrouping then
    return [← aggregateModifier]
  else if ← look Stream.atStrayIdent then
    return [← errorToken]
  else return []

def expectCallBody (sub : Sub) : Building NodeId := do
  if (← look Stream.kind) = .leftParen then callBody sub else missing

/-- An aggregation with its grouping before or after the body. -/
def aggregate (sub : Sub) (op : Aggregator) : Building NodeId := do
  let token ← look Stream.current
  let symbol ← tokenLeaf (.aggregator op)
  let outer ← node .aggregateOp token.start token.stop [symbol]
  let early ← look Stream.atGrouping
  let before ← earlyGrouping
  let body ← expectCallBody sub
  let after ← lateGrouping early
  let whole ← node .aggregateExpr token.start token.stop (outer :: before ++ body :: after)
  wrap .expr whole

/-- `( expr )` -/
def paren (sub : Sub) : Building NodeId := do
  let token ← look Stream.current
  advance
  let inner ← expectExpr sub 0
  let errors ← strays closesParen
  skip .rightParen
  let whole ← node .parenExpr token.start (← look Stream.last) (inner :: errors)
  wrap .expr whole

/-- What an identifier starts: an aggregation, a call, a number or a selector. -/
def identExpr (sub : Sub) (name : String) : Building NodeId := do
  let next ← look Stream.second
  let aggregation? : Option Aggregator :=
    if next.kind = .leftParen || next.isKeyword "by" || next.isKeyword "without" then
      Aggregator.ofName? name
    else none
  match aggregation? with
  | some op => aggregate sub op
  | none =>
    if next.kind = .leftParen then functionCall sub name
    else if ← look fun s => s.atKeyword "inf" || s.atKeyword "nan" then
      wrap .expr (← tokenLeaf .numberLiteral)
    else vectorSelector

/-- An expression without operators, ranges or offsets. -/
def primary (sub : Sub) : Building NodeId := do
  match ← look Stream.kind with
  | .number _ => wrap .expr (← tokenLeaf .numberLiteral)
  | .string _ _ => wrap .expr (← tokenLeaf .stringLiteral)
  | .leftParen => paren sub
  | .leftBrace =>
    let matchers ← labelMatchers
    let selector ← wrap .vectorSelector matchers
    wrap .expr selector
  | .ident name => identExpr sub name
  | _ => missing

def rangeDuration : Building NodeId := do
  match ← look Stream.kind with
  | .duration _ => tokenLeaf .duration
  | .number _ | .ident _ => tokenLeaf .error
  | _ => missing

/-- The step of a subquery, which may be left out. -/
def rangeStep : Building (List NodeId) := do
  match ← look Stream.kind with
  | .duration _ => return [← tokenLeaf .duration]
  | .number _ => return [← tokenLeaf .error]
  | _ => return []

/-- `[range]` or `[range:step]` after an expression. -/
def range (expr : NodeId) : Building NodeId := do
  advance
  let duration ← rangeDuration
  let subquery ← look fun s => decide (s.kind = .colon)
  let step ← if subquery then (do advance; rangeStep) else pure []
  skip .rightBracket
  let kind : NodeKind := if subquery then .subqueryExpr else .matrixSelector
  let start ← startOf expr
  let whole ← node kind start (← look Stream.last) (expr :: duration :: step)
  wrap .expr whole

/-- The duration of an offset, a minus before it included. -/
def offsetDuration : Building NodeId := do
  let token ← look Stream.current
  move fun s => if s.kind = .minus && isDuration s.second.kind then s.advance else s
  match ← look Stream.kind with
  | .duration _ =>
    let stop ← look (·.current.stop)
    advance
    leaf .duration token.start stop
  | .number _ => tokenLeaf .error
  | _ => missing

/-- `offset duration` after an expression. -/
def offset (expr : NodeId) : Building NodeId := do
  let keyword ← tokenLeaf .keywordOffset
  let duration ← offsetDuration
  let start ← startOf expr
  let whole ← node .offsetExpr start (← look Stream.last) [expr, keyword, duration]
  wrap .expr whole

/-- Ranges and offsets after an expression. -/
def postfixes : Nat → NodeId → Building NodeId
  | 0, expr => return expr
  | steps + 1, expr => do
    if (← look Stream.kind) = .leftBracket then
      postfixes steps (← range expr)
    else if ← look (·.atKeyword "offset") then
      postfixes steps (← offset expr)
    else return expr

/-- An expression with its ranges and offsets, but without operators. -/
def operand (sub : Sub) : Building NodeId := do
  let expr ← primary sub
  if (← record expr).kind = .error then
    return expr
  else postfixes (← look (·.rest.length)) expr

/-- An operand, or a sign and what it applies to. -/
def unary (sub : Sub) : Building NodeId := do
  if ← look fun s => s.kind = .plus || s.kind = .minus then
    let token ← look Stream.current
    let sign ← tokenLeaf .unaryOp
    let inner ← expectExpr sub BinaryOp.pow.precedence
    let whole ← node .unaryExpr token.start token.stop [sign, inner]
    wrap .expr whole
  else operand sub

/-- `group_left ( label, … )` or `group_right ( label, … )`, the labels of which may be left
out. -/
def groupClause : Building (List NodeId) := do
  let side? : Option NodeKind ← look fun s =>
    if s.atKeyword "group_left" then some .keywordGroupLeft
    else if s.atKeyword "group_right" then some .keywordGroupRight
    else none
  match side? with
  | none => return []
  | some side =>
    let keyword ← tokenLeaf side
    if (← look Stream.kind) = .leftParen then
      let labels ← groupingLabels
      return [keyword, labels]
    else return [keyword]

/-- `on ( label, … )` or `ignoring ( label, … )`, and the group clause after it. -/
def matchingClause : Building (List NodeId) := do
  let matching? : Option NodeKind ← look fun s =>
    if s.atKeyword "on" then some .keywordOn
    else if s.atKeyword "ignoring" then some .keywordIgnoring
    else none
  match matching? with
  | none => return []
  | some matching =>
    let keyword ← tokenLeaf matching
    let labels ← expectGroupingLabels
    let group ← groupClause
    return keyword :: labels :: group

def boolFlag : Building (List NodeId) := do
  if ← look (·.atKeyword "bool") then
    return [← tokenLeaf .keywordBool]
  else return []

/-- The modifiers of a binary operator; no node when there are none. -/
def binModifiers : Building (List NodeId) := do
  let bool ← boolFlag
  let matching ← matchingClause
  match bool ++ matching with
  | [] => return []
  | first :: more =>
    let start ← startOf first
    return [← node .binModifiers start start (first :: more)]

/-- An operator after `lhs`, with its modifiers and its right operand. -/
def binary (sub : Sub) (op : BinaryOp) (lhs : NodeId) : Building NodeId := do
  let symbol ← tokenLeaf (.operator op)
  let modifiers ← binModifiers
  let rhs ← expectExpr sub op.rightPrecedence
  let start ← startOf lhs
  let whole ← node .binaryExpr start start (lhs :: symbol :: modifiers ++ [rhs])
  wrap .expr whole

/-- Binary operators after `lhs` that bind at least as tight as `least`. -/
def binaries (sub : Sub) (least : Nat) : Nat → NodeId → Building NodeId
  | 0, lhs => return lhs
  | steps + 1, lhs => do
    match ← look Stream.binaryOp? with
    | none => return lhs
    | some op =>
      if op.precedence < least then
        return lhs
      else
        let lhs ← binary sub op lhs
        binaries sub least steps lhs

/-- An expression, `depth` levels above the deepest. -/
def expr : Nat → Sub
  | 0, _ => swallow
  | depth + 1, least => do
    let lhs ← unary (expr depth)
    binaries (expr depth) least (← look (·.rest.length)) lhs

/-- The expression at the start of the input, if one starts there. -/
def topExpr : Building (List NodeId) := do
  if ← look Stream.startsExpr then
    return [← expr maxDepth 0]
  else return []

/-- The root: an expression if one starts, and everything that is left over as errors. -/
def query (size : Nat) : Building NodeId := do
  let exprs ← topExpr
  let errors ← strays endsNothing
  node .query 0 size (exprs ++ errors)

end Building

namespace ArenaTree

/-- The arena of `text`, given its tokens or the first few of them. -/
def ofTokens (tokens : List Token) (text : Text) : Option ArenaTree :=
  let size := Text.size text
  (Building.query size ⟨.ofTokens tokens size, .empty⟩).map fun (root, site) =>
    ⟨text, site.arena, root⟩

/-- The arena of a text. -/
def parse (text : Text) : Option ArenaTree := ofTokens (Token.scan text) text

end ArenaTree

end MetricQuery
