import MetricQuery.Fault
import MetricQuery.Metadata.Basic

/-!
Metadata clients. A client answers queries; each query fixes the type of its answer. Whatever a
client remembers from one query to the next is its state `σ`.
-/

set_option autoImplicit false

namespace MetricQuery

/-- A question about metadata. -/
inductive MetadataQuery where
  /-- The names of all labels, or of those on series of a metric. -/
  | labelNames (metric : Option String)
  /-- The values of a label, on series of a metric that satisfy matchers. -/
  | labelValues (label : String) (metric : Option String) (matchers : Option (List Matcher))
  /-- The definitions of all metrics. -/
  | definitions
  /-- The series of a metric that satisfy matchers; `label` is the only label of interest. -/
  | series (metric : String) (matchers : Option (List Matcher)) (label : Option String)
  deriving DecidableEq, Repr

/-- What a query is answered with. -/
abbrev MetadataQuery.Answer : MetadataQuery → Type
  | .labelNames _ | .labelValues _ _ _ => List String
  | .definitions => Definitions
  | .series _ _ _ => List LabelSet

/-- Which of the four kinds of query a query is. -/
inductive MetadataQuery.Method where
  | labelNames
  | labelValues
  | definitions
  | series
  deriving DecidableEq, Repr

/-- The kind of a query. -/
def MetadataQuery.method : MetadataQuery → Method
  | .labelNames _ => .labelNames
  | .labelValues _ _ _ => .labelValues
  | .definitions => .definitions
  | .series _ _ _ => .series

/-- Something that answers metadata queries, or says what went wrong. The names of metrics are among
the answers to queries, so such a client needs no method of its own for them. -/
structure MetadataClient (σ : Type) where
  ask : (q : MetadataQuery) → σ → Except Fault q.Answer × σ

/-- A client that names metrics in a way of its own. -/
structure NamingClient (σ : Type) extends MetadataClient σ where
  /-- The names of all metrics that start as wanted, or what else the client gives for them. -/
  names : Option String → σ → Except Fault (List String) × σ

namespace MetadataClient

variable {σ : Type}

/-- The query for the names of all metrics. -/
def metricNamesQuery : MetadataQuery := .labelValues nameLabel none none

/-- The names that start with `start`. -/
def namesFrom (start : Option String) (names : List String) : List String :=
  names.filter fun name => ((start.getD "").toList).isPrefixOf name.toList

/-- The names of all metrics that start with `start`. -/
def metricNames (client : MetadataClient σ) (start : Option String) (s : σ) :
    Except Fault (List String) × σ :=
  let (answer, s) := client.ask metricNamesQuery s
  (answer.map (namesFrom start), s)

/-- The client with no other names than the ones among its answers. -/
def naming (client : MetadataClient σ) : NamingClient σ :=
  { client with names := client.metricNames }

end MetadataClient

end MetricQuery
