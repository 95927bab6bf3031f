import MetricQuery.Http.Basic
import MetricQuery.Json.Reader
import MetricQuery.Json.Record
import MetricQuery.Metadata.Client

/-!
The metadata client of a metrics server: which request each query sends, and what becomes of the
answer. Every answer is an envelope with a status, the data, and an error if there is one.
-/

set_option autoImplicit false

namespace MetricQuery

/-- Where the server is, and how many seconds back its answers look. -/
structure MetadataApi where
  url : String
  lookback : Nat
  deriving DecidableEq, Repr

namespace MetadataApi

/-- How far back answers look unless told otherwise: half a day. -/
def defaultLookback : Nat := 12 * 60 * 60

/-- The longest window that can be asked for, in seconds. -/
def longestWindow : Nat := 9223372036854775

/-- The API of the server at an address. -/
def ofUrl (url : String) (lookback : Nat) : MetadataApi := ⟨Http.trimSlashes url, lookback⟩

/-- The window of time that answers look at; one that is too long is empty. -/
def window (api : MetadataApi) : List Http.Param :=
  [.windowStart (if api.lookback ≤ longestWindow then api.lookback * 1000 else 0), .windowEnd]

/-- An envelope around data. -/
structure Envelope (α : Type) where
  status : String
  data : Option α
  errorType : Option String
  error : Option String

/-- Reads an envelope. -/
def Envelope.read? {α : Type} (read : Json → Option α) (value : Json) : Option (Envelope α) := do
  let r ← value.record? ["status", "data", "errorType", "error"]
  return {
    status := ← r.required "status" Json.string?
    data := ← r.nullable "data" read
    errorType := ← r.nullable "errorType" Json.string?
    error := ← r.nullable "error" Json.string? }

/-- What is in an envelope: the data, or the error that the server reports. -/
def Envelope.open {α : Type} (url : String) (e : Envelope α) : Except Fault α :=
  if e.status == "error" then .error (.answer (e.errorType.getD "") (e.error.getD ""))
  else
    match e.data with
    | some data => .ok data
    | none => .error (.decode url "response carries no data")

/-- What becomes of an answer. One that tells of a failure may still hold an envelope. -/
def receive {α : Type} (read : Json → Option α) (url : String) (answer : Option Http.Response) :
    Except Fault α :=
  match answer with
  | none => .error (.request url Http.transportMessage)
  | some response =>
    match (Json.parse? response.body.toList).bind (Envelope.read? read) with
    | some envelope => envelope.open url
    | none =>
      if response.isFailure then .error (.request url ("status " ++ toString response.status))
      else .error (.decode url Http.decoderMessage)

variable {σ : Type}

/-- Asks for data at an endpoint. -/
def fetch {α : Type} (api : MetadataApi) (transport : Http.Transport σ) (read : Json → Option α)
    (endpoint : String) (params : List Http.Param) (s : σ) : Except Fault α × σ :=
  let url := api.url ++ "/api/v1" ++ endpoint
  let (answer, s) := transport.send ⟨url, params, none⟩ s
  (receive read url answer, s)

/-- Reads a list of strings. -/
def readStrings : Json → Option (List String) := Json.listOf? Json.string?

/-- Reads a definition of a metric. -/
def readDefinition (value : Json) : Option Definition := do
  let r ← value.record? ["type", "help", "unit"]
  return {
    metricType := ← r.required "type" Json.string?
    help := ← r.withDefault "help" "" Json.string?
    unit := ← r.withDefault "unit" "" Json.string? }

/-- Reads the definitions of metrics. -/
def readDefinitions : Json → Option Definitions := Json.mapOf? (Json.listOf? readDefinition)

/-- Reads series. -/
def readSeries : Json → Option (List LabelSet) := Json.listOf? (Json.mapOf? Json.string?)

/-- Asks for the series of a metric that satisfy matchers. -/
def series (api : MetadataApi) (transport : Http.Transport σ) (metric : String)
    (matchers : Option (List Matcher)) (s : σ) : Except Fault (List LabelSet) × σ :=
  api.fetch transport readSeries "/series"
    (api.window ++ [.selector (seriesSelector metric matchers)]) s

/-- Asks for something that follows from the series of a metric. -/
def fromSeries {α : Type} (api : MetadataApi) (transport : Http.Transport σ) (metric : String)
    (matchers : Option (List Matcher)) (f : List LabelSet → α) (s : σ) : Except Fault α × σ :=
  let (answer, s) := api.series transport metric matchers s
  (answer.map f, s)

/-- The client of the server. Labels of all series are asked for by name; those of some series
are read off the series. -/
def client (api : MetadataApi) (transport : Http.Transport σ) : MetadataClient σ where
  ask
    | .labelNames metric => fun s =>
      let metric := metric.getD ""
      if metric.isEmpty then api.fetch transport readStrings "/labels" api.window s
      else api.fromSeries transport metric none labelNamesOf s
    | .labelValues label metric matchers => fun s =>
      let metric := metric.getD ""
      if metric.isEmpty && !(matchers.getD []).any fun m => !m.name.isEmpty then
        api.fetch transport readStrings ("/label/" ++ label ++ "/values") api.window s
      else api.fromSeries transport metric matchers (labelValuesOf · label) s
    | .definitions => fun s => api.fetch transport readDefinitions "/metadata" [] s
    | .series metric matchers _ => fun s => api.series transport metric matchers s

end MetadataApi

end MetricQuery
