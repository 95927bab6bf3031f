import MetricQuery.Completion.Analysis
import MetricQuery.Completion.Candidate
import MetricQuery.Metadata.Client
import MetricQuery.Syntax.Parser

/-!
From contexts to candidates. Every context contributes a list of its own, in the order of the
contexts. A fetch that fails leaves its list short and is reported; it never stops a completion.
-/

set_option autoImplicit false

namespace MetricQuery

/-- Suggestions that replace the bytes `[start, stop)`. -/
structure CompletionResult where
  start : Nat
  stop : Nat
  options : List Candidate
  /-- What text keeps the result valid while it is typed; absent when word boundaries do not
  matter. -/
  span : Option String
  deriving DecidableEq, Repr

namespace Completion

/-- The pattern of identifiers. -/
def identifierSpan : String := "^[a-zA-Z0-9_:]+$"

/-- Above how many metric names their definitions are not fetched, unless told otherwise. -/
def defaultMaxDefinitions : Nat := 10000

/-- The series that a histogram or a summary stands for: the ending of their names, and the start
of what is said about them. -/
def derivedSeries (metricType : String) : List (String × String) :=
  let counts :=
    [("_count", "The total number of observations for: "),
      ("_sum", "The total sum of observations for: ")]
  match metricType with
  | "histogram" =>
    ("_bucket", "The total count of observations for a bucket in the histogram: ") :: counts
  | "summary" => counts
  | _ => []

/-- The definitions of a series called `name` that one definition of `metric` gives rise to. -/
def derivedDefinitions (metric name : String) (d : Definition) : List Definition :=
  (derivedSeries d.metricType).filterMap fun (ending, about) =>
    if metric ++ ending == name then some ⟨"counter", about ++ d.help, d.unit⟩ else none

/-- Every definition of a series: its own, and those of the metrics it is derived from. -/
def definitionsOf (all : Definitions) (name : String) : List Definition :=
  all.flatMap fun (metric, ds) =>
    (if metric == name then ds else []) ++ ds.flatMap (derivedDefinitions metric name)

/-- The types and help texts of definitions, each pair once. -/
def meanings (ds : List Definition) : List (String × String) :=
  distinct (ds.map fun d => (d.metricType, d.help))

/-- Says what a metric is, if its definitions agree. -/
def decorate (all : Definitions) (c : Candidate) : Candidate :=
  match meanings (definitionsOf all c.label) with
  | [] => c
  | [(metricType, help)] => { c with detail := some metricType, info := some help }
  | _ =>
    { c with
      detail := some "unknown"
      info := some "multiple different definitions for this metric" }

/-- What a context contributes, which fetches failed, and the state of the client after that. -/
structure Gathered (σ : Type) where
  options : List Candidate
  faults : List Fault
  state : σ

variable {σ : Type}

/-- The metric names that start with `start`, with their definitions unless there are more than
`limit` names; and the snippets. -/
def metricNames (client : MetadataClient σ) (limit : Nat) (start : Option String) (s : σ) :
    Gathered σ :=
  match client.metricNames start s with
  | (.error fault, s) => ⟨Candidate.snippets, [fault], s⟩
  | (.ok names, s) =>
    let metrics := (distinct names).map Candidate.metric
    if metrics.length ≤ limit then
      match client.ask .definitions s with
      | (.error fault, s) => ⟨metrics ++ Candidate.snippets, [fault], s⟩
      | (.ok all, s) => ⟨metrics.map (decorate all) ++ Candidate.snippets, [], s⟩
    else ⟨metrics ++ Candidate.snippets, [], s⟩

/-- The candidates of fetched labels. -/
def labels (fetched : Except Fault (List String) × σ) : Gathered σ :=
  match fetched with
  | (.ok names, s) => ⟨names.map Candidate.ofLabel, [], s⟩
  | (.error fault, s) => ⟨[], [fault], s⟩

/-- The candidates of a context that needs no client. -/
def staticCandidates : ContextKind → List Candidate
  | .function => Candidate.functions
  | .aggregation => Candidate.aggregations
  | .binOp => Candidate.binaryOps
  | .binOpModifier => Candidate.binaryModifiers
  | .matchOp => Candidate.matchOps
  | .aggregateOpModifier => Candidate.aggregateModifiers
  | .duration => Candidate.durations
  | .offset => Candidate.offsets
  | .metricName => Candidate.snippets
  | .labelName | .labelValue => []

/-- What a context contributes. -/
def candidates (client : Option (MetadataClient σ)) (limit : Nat) (ctx : Context) (s : σ) :
    Gathered σ :=
  match client, ctx.kind with
  | some client, .metricName => metricNames client limit ctx.metric s
  | some client, .labelName => labels (client.ask (.labelNames ctx.metric) s)
  | some client, .labelValue =>
    match ctx.label with
    | some label => labels (client.ask (.labelValues label ctx.metric ctx.matchers) s)
    | none => ⟨[], [], s⟩
  | _, kind => ⟨staticCandidates kind, [], s⟩

/-- What contexts contribute, one after another. -/
def gather (client : Option (MetadataClient σ)) (limit : Nat) : List Context → σ → Gathered σ
  | [], s => ⟨[], [], s⟩
  | ctx :: rest, s =>
    let first := candidates client limit ctx s
    let more := gather client limit rest first.state
    ⟨first.options ++ more.options, first.faults ++ more.faults, more.state⟩

/-- A completion: its result, if anything fits, the fetches that failed, and the state of the
client after that. -/
structure Outcome (σ : Type) where
  result : Option CompletionResult
  faults : List Fault
  state : σ

/-- The result of contexts for the bytes `[start, stop)`. -/
def assemble (client : Option (MetadataClient σ)) (limit : Nat) (contexts : List Context)
    (start stop : Nat) (s : σ) : Outcome σ :=
  let gathered := gather client limit contexts s
  let span := if contexts.any (·.kind == .duration) then none else some identifierSpan
  ⟨some ⟨start, stop, gathered.options, span⟩, gathered.faults, gathered.state⟩

/-- Completes a text at `pos`, or at its end when `pos` lies beyond. -/
def complete (client : Option (MetadataClient σ)) (limit : Nat) (text : Text) (pos : Nat) (s : σ) :
    Outcome σ :=
  let pos := min pos (Text.size text)
  let cursor := (SyntaxTree.parse text).resolve pos .before
  match contexts text cursor pos with
  | [] => ⟨none, [], s⟩
  | found => assemble client limit found (replacementStart cursor pos) pos s

end Completion

end MetricQuery
