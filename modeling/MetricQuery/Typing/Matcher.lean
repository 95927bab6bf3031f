import MetricQuery.Syntax.Path
import MetricQuery.Text.Quoted

/-!
Label matchers: what a selector asks of a label.
-/

set_option autoImplicit false

namespace MetricQuery

/-- `name op "value"` -/
structure Matcher where
  op : MatchOp
  name : String
  value : String
  deriving DecidableEq, Repr

namespace Matcher

/-- Whether series without the label satisfy the matcher. Regular expressions never count. -/
def matchesEmpty (m : Matcher) : Bool :=
  match m.op with
  | .eqlSingle => m.value.isEmpty
  | .neq => !m.value.isEmpty
  | .eqlRegex | .neqRegex => false

/-- The matcher as a query writes it. -/
def render (m : Matcher) : String :=
  m.name ++ m.op.symbol ++ String.ofList (Text.quote m.value.toList)

/-- Takes in one child of a matcher node; a later one replaces what an earlier one said. -/
def extend (source : Text) (m : Matcher) (child : Node) : Matcher :=
  match child.kind with
  | .labelName => { m with name := child.text source }
  | .matchOp =>
    match child.first?.map Node.kind with
    | some (.matchSymbol op) => { m with op := op }
    | _ => m
  | .stringLiteral =>
    { m with value := String.ofList (Text.unquote (child.text source).toList) }
  | _ => m

/-- The matcher of a node. What is missing is an `=` or an empty string. -/
def ofNode (source : Text) (n : Node) : Matcher :=
  n.children.foldl (extend source) ⟨.eqlSingle, "", ""⟩

/-- Whether the matchers ask for anything at all. -/
def someNonEmpty (matchers : List Matcher) : Bool := !matchers.all matchesEmpty

end Matcher

namespace Node

/-- The value of a matcher node between its quotes, escapes as written. -/
def rawValue (source : Text) (n : Node) : String :=
  match n.child? .stringLiteral with
  | some literal => String.ofList (Text.stripQuotes (literal.text source).toList).2
  | none => ""

/-- The matcher nodes of a selector, in source order. -/
def matcherNodes (selector : Node) : List Node :=
  match selector.at? [.labelMatchers, .labelMatchList] with
  | some list => list.items .labelMatchList .labelMatcher
  | none => []

/-- The name node of a selector. -/
def metricNode? (selector : Node) : Option Node :=
  selector.at? [.metricIdentifier, .identifier]

end Node

end MetricQuery
