import MetricQuery.Syntax.Tree

/-!
Diagnostics: problems found in a query, each with the bytes it concerns.
-/

set_option autoImplicit false

namespace MetricQuery

/-- How bad a problem is. -/
inductive Severity where
  | error
  | warning
  deriving DecidableEq, Repr

/-- The name of a severity. -/
def Severity.name : Severity → String
  | .error => "error"
  | .warning => "warning"

/-- A problem over the bytes `[start, stop)`. -/
structure Diagnostic where
  start : Nat
  stop : Nat
  severity : Severity
  message : String
  deriving DecidableEq, Repr

/-- Whether a diagnostic starts no later than another. -/
def Diagnostic.le (a b : Diagnostic) : Bool := a.start ≤ b.start

/-- A problem with a node as a whole. -/
def Node.problem (n : Node) (message : String) : Diagnostic :=
  ⟨n.start, n.stop, .error, message⟩

end MetricQuery
