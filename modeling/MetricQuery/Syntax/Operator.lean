/-!
Operators of the query language: binary operators with their binding power, and the operators of
label matchers.
-/

set_option autoImplicit false

namespace MetricQuery

/-- Binary operators. -/
inductive BinaryOp where
  | pow
  | mul
  | div
  | mod
  | add
  | sub
  | eql
  | neq
  | lte
  | lss
  | gte
  | gtr
  | and
  | or
  | unless
  deriving DecidableEq, Repr

namespace BinaryOp

/-- Every binary operator. -/
def all : List BinaryOp :=
  [.pow, .mul, .div, .mod, .add, .sub, .eql, .neq, .lte, .lss, .gte, .gtr, .and, .or, .unless]

/-- The operator in a query. -/
def symbol : BinaryOp → String
  | .pow => "^"
  | .mul => "*"
  | .div => "/"
  | .mod => "%"
  | .add => "+"
  | .sub => "-"
  | .eql => "=="
  | .neq => "!="
  | .lte => "<="
  | .lss => "<"
  | .gte => ">="
  | .gtr => ">"
  | .and => "and"
  | .or => "or"
  | .unless => "unless"

/-- The name in a syntax tree. -/
def label : BinaryOp → String
  | .pow => "Pow"
  | .mul => "Mul"
  | .div => "Div"
  | .mod => "Mod"
  | .add => "Add"
  | .sub => "Sub"
  | .eql => "Eql"
  | .neq => "Neq"
  | .lte => "Lte"
  | .lss => "Lss"
  | .gte => "Gte"
  | .gtr => "Gtr"
  | .and => "And"
  | .or => "Or"
  | .unless => "Unless"

/-- Binding power: the higher, the tighter. -/
def precedence : BinaryOp → Nat
  | .or => 1
  | .and | .unless => 2
  | .eql | .neq | .lte | .lss | .gte | .gtr => 3
  | .add | .sub => 4
  | .mul | .div | .mod => 5
  | .pow => 6

/-- Whether a chain of the operator groups from the right. -/
def isRightAssociative : BinaryOp → Bool
  | .pow => true
  | _ => false

/-- Whether the operator compares values. -/
def isComparison (op : BinaryOp) : Bool := op.precedence == 3

/-- Whether the operator combines sets of series. -/
def isSetOperator : BinaryOp → Bool
  | .and | .or | .unless => true
  | _ => false

/-- The least binding power of operators in the right operand. -/
def rightPrecedence (op : BinaryOp) : Nat :=
  if op.isRightAssociative then op.precedence else op.precedence + 1

end BinaryOp

/-- Operators of label matchers. -/
inductive MatchOp where
  | eqlSingle
  | neq
  | eqlRegex
  | neqRegex
  deriving DecidableEq, Repr

namespace MatchOp

/-- Every matcher operator. -/
def all : List MatchOp := [.eqlSingle, .neq, .eqlRegex, .neqRegex]

/-- The operator in a query. -/
def symbol : MatchOp → String
  | .eqlSingle => "="
  | .neq => "!="
  | .eqlRegex => "=~"
  | .neqRegex => "!~"

/-- The name in a syntax tree. -/
def label : MatchOp → String
  | .eqlSingle => "EqlSingle"
  | .neq => "Neq"
  | .eqlRegex => "EqlRegex"
  | .neqRegex => "NeqRegex"

end MatchOp

end MetricQuery
