import MetricQuery.Completion.Assembly
import MetricQuery.Json.Basic

/-!
How diagnostics and completions are written as JSON.
-/

set_option autoImplicit false

namespace MetricQuery

/-- A diagnostic as JSON. -/
def Diagnostic.toJson (d : Diagnostic) : Json :=
  .object [("from", .nat d.start), ("to", .nat d.stop), ("severity", .string d.severity.name),
    ("message", .string d.message)]

/-- A candidate as JSON, members in the order of their names. -/
def Candidate.toJson (c : Candidate) : Json :=
  .object (Json.member? "apply" .string c.apply ++ Json.member? "detail" .string c.detail ++
    Json.member? "info" .string c.info ++ Json.member? "kind" (fun k => .string k.name) c.kind ++
    [("label", .string c.label)])

/-- A completion as JSON, with its options written by `option`, members in the order of their
names. -/
def CompletionResult.toJsonWith (option : Candidate → Json) (r : CompletionResult) : Json :=
  .object [("from", .nat r.start), ("options", .list option r.options),
    ("span", .ofOption .string r.span), ("to", .nat r.stop)]

/-- A completion as JSON. -/
def CompletionResult.toJson (r : CompletionResult) : Json := r.toJsonWith Candidate.toJson

end MetricQuery
