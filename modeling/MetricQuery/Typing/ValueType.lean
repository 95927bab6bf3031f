import MetricQuery.Syntax.Path

/-!
Value types: what an expression evaluates to, and what the built-in functions take and return.
-/

set_option autoImplicit false

namespace MetricQuery

/-- What an expression evaluates to. -/
inductive ValueType where
  /-- Nothing that is known. -/
  | untyped
  | vector
  | scalar
  | matrix
  | string
  deriving DecidableEq, Repr

/-- The name of a type. -/
def ValueType.name : ValueType → String
  | .untyped => "none"
  | .vector => "vector"
  | .scalar => "scalar"
  | .matrix => "matrix"
  | .string => "string"

/-- Which arguments beyond the first ones a function takes. -/
inductive Variadic where
  /-- Exactly the declared arguments. -/
  | fixed
  /-- The last declared argument may be left out or repeated, up to so many times. -/
  | upTo (count : Nat)
  /-- The last declared argument may be left out or repeated at will. -/
  | unbounded
  deriving DecidableEq, Repr

/-- What a function takes and returns. -/
structure Signature where
  arguments : List ValueType
  variadic : Variadic
  result : ValueType
  deriving DecidableEq, Repr

/-- The signature of a built-in function. -/
def QueryFunction.signature : QueryFunction → Signature
  | .abs | .absent | .ceil | .exp | .floor | .ln | .log10 | .log2 | .sort | .sortDesc | .sqrt
  | .timestamp => ⟨[.vector], .fixed, .vector⟩
  | .absentOverTime | .avgOverTime | .changes | .countOverTime | .delta | .deriv | .idelta
  | .increase | .irate | .maxOverTime | .minOverTime | .rate | .resets | .stddevOverTime
  | .stdvarOverTime | .sumOverTime => ⟨[.matrix], .fixed, .vector⟩
  | .clampMax | .clampMin => ⟨[.vector, .scalar], .fixed, .vector⟩
  | .daysInMonth | .dayOfMonth | .dayOfWeek | .hour | .minute | .month | .year =>
    ⟨[.vector], .upTo 1, .vector⟩
  | .histogramQuantile => ⟨[.scalar, .vector], .fixed, .vector⟩
  | .holtWinters => ⟨[.matrix, .scalar, .scalar], .fixed, .vector⟩
  | .labelReplace => ⟨[.vector, .string, .string, .string, .string], .fixed, .vector⟩
  | .labelJoin => ⟨[.vector, .string, .string, .string], .unbounded, .vector⟩
  | .predictLinear => ⟨[.matrix, .scalar], .fixed, .vector⟩
  | .quantileOverTime => ⟨[.scalar, .matrix], .fixed, .vector⟩
  | .round => ⟨[.vector, .scalar], .upTo 1, .vector⟩
  | .scalar => ⟨[.vector], .fixed, .scalar⟩
  | .time => ⟨[], .fixed, .scalar⟩
  | .vector => ⟨[.scalar], .fixed, .vector⟩

namespace Node

/-- The built-in function that a call calls; none when its name is unknown. -/
def calledFunction? (n : Node) : Option QueryFunction :=
  match (n.child? .functionIdentifier).bind first? |>.map kind with
  | some (.function f) => some f
  | _ => none

mutual

/-- The type of an expression; nodes that are no expression have none. -/
def type : Node → ValueType
  | .mk kind start stop children =>
    match kind with
    | .expr => typeOfFirst children
    | .aggregateExpr | .vectorSelector => .vector
    | .numberLiteral => .scalar
    | .stringLiteral => .string
    | .matrixSelector | .subqueryExpr => .matrix
    | .parenExpr | .unaryExpr | .offsetExpr => typeOfExpr children
    | .binaryExpr =>
      if typeOfFirst children = .scalar ∧ typeOfLast children = .scalar then .scalar else .vector
    | .functionCall =>
      match (Node.mk kind start stop children).calledFunction? with
      | some f => f.signature.result
      | none => .untyped
    | _ => .untyped

/-- The type of the first of siblings. -/
def typeOfFirst : List Node → ValueType
  | [] => .untyped
  | c :: _ => type c

/-- The type of the last of siblings. -/
def typeOfLast : List Node → ValueType
  | [] => .untyped
  | [c] => type c
  | _ :: d :: cs => typeOfLast (d :: cs)

/-- The type of the first expression among siblings. -/
def typeOfExpr : List Node → ValueType
  | [] => .untyped
  | c :: cs => if c.kind = .expr then type c else typeOfExpr cs

end

/-- The type of an expression that may be missing. -/
def typeOf? (n : Option Node) : ValueType := (n.map type).getD .untyped

theorem typeOfFirst_eq (cs : List Node) : typeOfFirst cs = typeOf? cs.head? := by
  cases cs <;> rfl

theorem typeOfLast_eq (cs : List Node) : typeOfLast cs = typeOf? cs.getLast? := by
  induction cs with
  | nil => rfl
  | cons c cs ih =>
    cases cs with
    | nil => rfl
    | cons d ds => simpa [typeOfLast] using ih

theorem typeOfExpr_eq (cs : List Node) :
    typeOfExpr cs = typeOf? (cs.find? (·.kind == .expr)) := by
  induction cs with
  | nil => rfl
  | cons c cs ih => by_cases h : c.kind = .expr <;> simp [typeOfExpr, h, ih, typeOf?]

end Node

end MetricQuery
