import MetricQuery.Diagnostic
import MetricQuery.Token.Basic

/-!
Faults: what can go wrong outside the query itself, and how a faulty query is reported as a
whole. The wording is here and nowhere else.
-/

set_option autoImplicit false

namespace MetricQuery

/-- A problem in a query, ready to be reported. -/
structure Problem where
  span : Span
  message : String
  deriving DecidableEq, Repr

/-- What went wrong. -/
inductive Fault where
  /-- A query has one problem. -/
  | invalidExpression (problem : Problem)
  /-- A query of `size` bytes has several. -/
  | invalidExpressions (size : Nat) (problems : List Problem)
  /-- A request got no usable answer. -/
  | request (url message : String)
  /-- A server answered with an error of its own. -/
  | answer (errorType message : String)
  /-- An answer could not be understood. -/
  | decode (url message : String)
  /-- The settings are wrong. -/
  | settings (message help : String)
  /-- Reading or writing failed. -/
  | io (message : String)
  deriving DecidableEq, Repr

namespace Problem

/-- The problem that a diagnostic reports. A range that ends before it starts is empty. -/
def ofDiagnostic (d : Diagnostic) : Problem := ⟨⟨d.start, d.stop - d.start⟩, d.message⟩

end Problem

namespace Fault

/-- One fault for all problems of a query of `size` bytes, if there are any. -/
def ofDiagnostics (size : Nat) (diagnostics : List Diagnostic) : Option Fault :=
  match diagnostics with
  | [] => none
  | [d] => some (.invalidExpression (.ofDiagnostic d))
  | ds => some (.invalidExpressions size (ds.map .ofDiagnostic))

/-- The bytes of the query concerned. -/
def span? : Fault → Option Span
  | .invalidExpression problem => some problem.span
  | .invalidExpressions size _ => some ⟨0, size⟩
  | _ => none

/-- The whole message in one line. -/
def message : Fault → String
  | .invalidExpression problem => problem.message
  | .invalidExpressions _ problems => Text.join "; " (problems.map Problem.message)
  | .request url message => "request to " ++ url ++ " failed: " ++ message
  | .answer _ message => message
  | .decode url message => "unexpected response from " ++ url ++ ": " ++ message
  | .settings message _ => "invalid configuration: " ++ message
  | .io message => "I/O error: " ++ message

/-- The headline of a report. -/
def title : Fault → String
  | .invalidExpression problem => problem.message
  | .invalidExpressions _ problems =>
    "invalid expression (" ++ toString problems.length ++ " errors)"
  | .request url _ => "request to " ++ url ++ " failed"
  | .answer _ message => "server answered with an error: " ++ message
  | .decode url _ => "unexpected response from " ++ url
  | .settings message _ => "invalid configuration: " ++ message
  | .io message => "I/O error: " ++ message

/-- The code of a report. -/
def code? : Fault → Option String
  | .invalidExpression _ | .invalidExpressions _ _ => some "E0001"
  | .request _ _ => some "E0101"
  | .answer _ _ => some "E0102"
  | .decode _ _ => some "E0103"
  | .settings _ _ => some "E0201"
  | .io _ => none

/-- What a report advises. -/
def help? : Fault → Option String
  | .invalidExpression _ | .io _ => none
  | .invalidExpressions _ _ => some "fix all problems listed below"
  | .request _ message => some message
  | .answer errorType _ => some ("error type: " ++ errorType)
  | .decode _ message => some message
  | .settings _ help => some help

/-- The places that a report marks in the query. -/
def labels : Fault → List (Span × String)
  | .invalidExpression problem => [(problem.span, problem.message)]
  | .invalidExpressions size _ => [(⟨0, size⟩, "in this expression")]
  | _ => []

/-- The headlines of the reports below this one. -/
def related : Fault → List String
  | .invalidExpressions _ problems => problems.map Problem.message
  | _ => []

end Fault

end MetricQuery
