import MetricQuery.Diagnostic
import MetricQuery.Order.Stable
import MetricQuery.Syntax.Parser
import MetricQuery.Typing.Matcher
import MetricQuery.Typing.Matching
import MetricQuery.Typing.ValueType

/-!
Checking a query: operand types that do not fit, matching that is not allowed, selectors that
select everything, and input that fits nowhere. A check never fails, it collects diagnostics.
-/

set_option autoImplicit false

namespace MetricQuery

/-- Whether operators work on values of a type. -/
def ValueType.isOperand (t : ValueType) : Bool := t == .scalar || t == .vector

namespace Signature

/-- The types wanted of the first `count` arguments. What goes beyond a fixed signature is not
looked at; what goes beyond a variadic one repeats its last type. -/
def wanted (s : Signature) (count : Nat) : List ValueType :=
  let declared := s.arguments.take count
  match s.variadic, s.arguments.getLast? with
  | .fixed, _ | _, none => declared
  | _, some last => declared ++ List.replicate (count - s.arguments.length) last

/-- What is wrong with a number of arguments: the bound that is missed and how it is worded. -/
def arityFault? (s : Signature) (count : Nat) : Option (String × Nat) :=
  let declared := s.arguments.length
  let least := declared - 1
  match s.variadic with
  | .fixed => if count ≠ declared then some ("", declared) else none
  | .upTo extra =>
    if count < least then some ("at least ", least)
    else if least + extra < count then some ("at most ", least + extra)
    else none
  | .unbounded => if count < least then some ("at least ", least) else none

end Signature

namespace Node

/-- The complaint that a node has another type than the one wanted. -/
def mismatch (n : Node) (want : ValueType) (place : String) : List Diagnostic :=
  if n.type = want then []
  else [n.problem ("expected type " ++ want.name ++ " in " ++ place ++ ", got " ++ n.type.name)]

/-- The arguments of a call, in source order. -/
def callArguments (call : Node) : List Node :=
  match call.at? [.functionCallBody] with
  | some body => body.items .functionCallArgs .expr
  | none => []

theorem sizeOf_callArguments_lt {c call : Node} (h : c ∈ call.callArguments) :
    sizeOf c < sizeOf call := by
  simp only [callArguments] at h
  split at h
  · rename_i body found
    exact Nat.lt_trans (sizeOf_items_lt h) (sizeOf_at?_lt found)
  · cases h

/-- What is wrong with the number of arguments of a call. -/
def arityProblems (call : Node) (f : QueryFunction) : List Diagnostic :=
  let count := call.callArguments.length
  match f.signature.arityFault? count with
  | none => []
  | some (bound, number) =>
    [call.problem ("expected " ++ bound ++ toString number ++ " argument(s) in call to " ++ f.name
      ++ ", got " ++ toString count)]

/-- What is wrong with a selector: its name given twice, or nothing asked for. -/
def selectorProblems (source : Text) (n : Node) : List Diagnostic :=
  let nodes := n.matcherNodes
  let matchers := nodes.map (Matcher.ofNode source)
  let name := (n.metricNode?.map (text source)).getD ""
  let twice :=
    if name.isEmpty then []
    else
      match nodes.find? fun m => (Matcher.ofNode source m).name == "__name__" with
      | some m =>
        [n.problem ("metric name must not be set twice: " ++ name ++ " or " ++ m.rawValue source)]
      | none => []
  let all := if name.isEmpty then matchers else matchers ++ [⟨.eqlSingle, "__name__", name⟩]
  twice ++
    if Matcher.someNonEmpty all then []
    else [n.problem "vector selector must contain at least one non-empty matcher"]

/-- Labels that are both matched on and included, as often as they meet. -/
def sharedLabels (m : Matching) : List String :=
  if m.on then m.labels.flatMap fun l => (m.included.filter (· == l)).map fun _ => l else []

/-- What is wrong with the matching of a binary expression, given the types of its sides. -/
def matchingProblems (n : Node) (m : Option Matching) (isSet : Bool) (lt rt : ValueType) :
    List Diagnostic :=
  let setProblems (card : Option Cardinality) : List Diagnostic :=
    (if card = some .oneToMany ∨ card = some .manyToOne then
      [n.problem "no grouping allowed for set operations"] else []) ++
    (if card ≠ some .manyToMany then
      [n.problem "set operations must always be many-to-many"] else [])
  match m with
  | some m =>
    if lt ≠ .vector ∨ rt ≠ .vector then
      if m.labels.isEmpty then []
      else [n.problem "vector matching only allowed between instant vectors"]
    else if isSet then setProblems (some m.card)
    else []
  | none => if isSet then setProblems none else []

/-- What is wrong with a binary expression itself, its sides apart. -/
def binaryProblems (source : Text) (n lhs rhs : Node) : List Diagnostic :=
  let lt := lhs.type
  let rt := rhs.type
  let isComparison := (n.operator?.map BinaryOp.isComparison).getD false
  let isSet := (n.operator?.map BinaryOp.isSetOperator).getD false
  let boolUsed := (n.walk [.binModifiers, .keywordBool]).isFound
  let m := Matching.ofBinary? source n
  let onlyOperands := "binary expression must contain only scalar and instant vector types"
  (if boolUsed then
    if isComparison then []
    else [n.problem "bool modifier can only be used on comparison operators"]
  else if isComparison && lt == .scalar && rt == .scalar then
    [n.problem "comparisons between scalars must use BOOL modifier"]
  else []) ++
  ((m.map sharedLabels).getD []).map (fun l =>
    n.problem ("label \"" ++ l ++ "\" must not occur in ON and GROUP clause at once")) ++
  (if lt.isOperand then [] else [lhs.problem onlyOperands]) ++
  (if rt.isOperand then [] else [rhs.problem onlyOperands]) ++
  matchingProblems n m isSet lt rt ++
  (if (lt == .scalar || rt == .scalar) && isSet then
    [n.problem "set operator not allowed in binary scalar expression"] else [])

/-- The type wanted of the parameter of an aggregation; none when it takes none. -/
def wantedParameter? (op : NodeKind) : Option ValueType :=
  match op with
  | .aggregator .topk | .aggregator .bottomk | .aggregator .quantile => some .scalar
  | .aggregator .countValues => some .string
  | _ => none

/-- Everything wrong with an expression and the ones inside it, in the order of the walk. -/
def problems (source : Text) (n : Node) : List Diagnostic :=
  match n.kind with
  | .expr =>
    match _h : n.first? with
    | some inner => problems source inner
    | none => []
  | .parenExpr | .matrixSelector | .offsetExpr =>
    match _h : n.at? [.expr] with
    | some inner => problems source inner
    | none => []
  | .unaryExpr =>
    let t := typeOf? (n.at? [.expr])
    (match _h : n.at? [.expr] with
      | some inner => problems source inner
      | none => []) ++
    (if t.isOperand then []
      else [n.problem ("unary expression only allowed on expressions of type scalar or instant " ++
        "vector, got " ++ t.name)])
  | .subqueryExpr =>
    let t := typeOf? (n.at? [.expr])
    (match _h : n.at? [.expr] with
      | some inner => problems source inner
      | none => []) ++
    (if t = .vector then []
      else [n.problem ("subquery is only allowed on instant vector, got " ++ t.name ++ " in "
        ++ n.kind.label ++ " instead")])
  | .vectorSelector => selectorProblems source n
  | .aggregateExpr =>
    match n.first?.bind first? with
    | none =>
      [n.problem "aggregation operator expected in aggregation expression but got nothing"]
    | some op =>
      match _h : n.at? [.functionCallBody, .functionCallArgs, .expr] with
      | none => [n.problem "unable to find the parameter for the expression"]
      | some last =>
        problems source last ++ last.mismatch .vector "aggregation expression" ++
        match wantedParameter? op.kind with
        | none => []
        | some want =>
          match _h : n.at? [.functionCallBody, .functionCallArgs, .functionCallArgs, .expr] with
          | none => [n.problem "no parameter found"]
          | some parameter =>
            problems source parameter ++ parameter.mismatch want "aggregation parameter"
  | .binaryExpr =>
    match _hl : n.first?, _hr : n.last? with
    | some lhs, some rhs =>
      problems source lhs ++ problems source rhs ++ binaryProblems source n lhs rhs
    | _, _ => [n.problem "left or right expression is missing in binary expression"]
  | .functionCall =>
    match n.first?.bind first? with
    | none => [n.problem "function not defined"]
    | some name =>
      match name.kind with
      | .function f =>
        let arguments := n.callArguments
        arityProblems n f ++
          (arguments.attach.zip (f.signature.wanted arguments.length)).flatMap
            fun (⟨argument, _h⟩, want) =>
              problems source argument ++
                argument.mismatch want ("call to function " ++ f.name)
      | _ => []
  | _ => []
termination_by sizeOf n
decreasing_by
  all_goals first
    | exact sizeOf_first?_lt ‹_›
    | exact sizeOf_last?_lt ‹_›
    | exact sizeOf_at?_lt ‹_›
    | exact sizeOf_callArguments_lt ‹_›

end Node

namespace SyntaxTree

/-- One complaint for each error node that does not touch the end of the text: there the query is
most likely still being typed. -/
def strayProblems (t : SyntaxTree) : List Diagnostic :=
  (t.nodes.filter fun n => n.kind.isError && n.stop != t.size).map fun n =>
    (t.resolve n.start .before).node.problem "unexpected expression"

/-- Everything wrong with a query, sorted by where it starts. -/
def check (t : SyntaxTree) : List Diagnostic :=
  stableSort Diagnostic.le
    (((t.root.first?.map (Node.problems t.text)).getD []) ++ t.strayProblems)

end SyntaxTree

/-- Everything wrong with a text, read as a query. -/
def lint (text : Text) : List Diagnostic := (SyntaxTree.parse text).check

end MetricQuery
