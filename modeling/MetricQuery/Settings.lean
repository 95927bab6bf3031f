import MetricQuery.Fault
import MetricQuery.Json.Reader
import MetricQuery.Json.Record

/-!
Settings: how completion and linting are served. They are read from JSON; whatever is not written
has a default.
-/

set_option autoImplicit false

namespace MetricQuery

/-- Where suggestions and diagnostics come from. -/
structure ServiceSettings where
  /-- The metrics server, or the language service when `remote` is set. -/
  url : String
  remote : Bool
  /-- Whether only fixed suggestions are made and nothing is fetched. -/
  offline : Bool
  /-- How many seconds back label queries look. -/
  lookback : Nat
  /-- Above how many metric names their definitions are not fetched. -/
  maxDefinitions : Nat
  /-- How many seconds a fetched answer may be used again. -/
  cacheMaxAge : Nat
  /-- How many items a language service is asked for. -/
  limit : Nat
  deriving DecidableEq, Repr

namespace ServiceSettings

/-- Settings with nothing written. -/
def default : ServiceSettings where
  url := ""
  remote := false
  offline := true
  lookback := 12 * 60 * 60
  maxDefinitions := 10000
  cacheMaxAge := 5 * 60
  limit := 100

/-- Settings for a metrics server at an address. -/
def online (url : String) : ServiceSettings := { default with url := url, offline := false }

/-- The names of the fields, in their order. -/
def fieldNames : List String :=
  ["url", "enable_lsp", "offline", "lookback", "max_metrics_metadata", "cache_max_age", "limit"]

/-- Reads settings. -/
def read? (value : Json) : Option ServiceSettings := do
  let r ← value.record? fieldNames
  let nat (name : String) (fallback : Nat) := r.withDefault name fallback (Json.natOfBits? 64)
  return {
    url := ← r.withDefault "url" default.url Json.string?
    remote := ← r.withDefault "enable_lsp" default.remote Json.bool?
    offline := ← r.withDefault "offline" default.offline Json.bool?
    lookback := ← nat "lookback" default.lookback
    maxDefinitions := ← nat "max_metrics_metadata" default.maxDefinitions
    cacheMaxAge := ← nat "cache_max_age" default.cacheMaxAge
    limit := ← nat "limit" default.limit }

/-- Settings as JSON. -/
def toJson (s : ServiceSettings) : Json :=
  .object [("url", .string s.url), ("enable_lsp", .bool s.remote), ("offline", .bool s.offline),
    ("lookback", .nat s.lookback), ("max_metrics_metadata", .nat s.maxDefinitions),
    ("cache_max_age", .nat s.cacheMaxAge), ("limit", .nat s.limit)]

/-- The address, which must be there. -/
def requireUrl (s : ServiceSettings) : Except Fault String :=
  if s.url.isEmpty then
    .error (.settings "no url configured" "set `complete.url` or pass --url")
  else .ok s.url

end ServiceSettings

/-- All settings. -/
structure Settings where
  service : ServiceSettings
  logLevel : Option String
  deriving DecidableEq, Repr

/-- A file, by its name and content. -/
structure NamedFile where
  name : String
  content : String
  deriving DecidableEq, Repr

/-- The content of a file. -/
def NamedFile.contentOf? (files : List NamedFile) (name : String) : Option String :=
  (files.find? (·.name == name)).map NamedFile.content

namespace Settings

/-- Settings with nothing written. -/
def default : Settings := ⟨.default, none⟩

/-- The file that holds settings when no other is named. -/
def localFile : String := "promql-editor.json"

/-- Reads settings. -/
def read? (value : Json) : Option Settings := do
  let r ← value.record? ["complete", "log_level"]
  return {
    service := ← r.withDefault "complete" .default ServiceSettings.read?
    logLevel := ← r.optional "log_level" Json.string? }

/-- Settings as JSON. -/
def toJson (s : Settings) : Json :=
  .object [("complete", s.service.toJson), ("log_level", .ofOption .string s.logLevel)]

/-- The settings in the content of a file. -/
def ofContent (name content : String) : Except Fault Settings :=
  match (Json.parse? content.toList).bind read? with
  | some settings => .ok settings
  | none => .error (.settings (name ++ ": malformed") "the config file must be a JSON object")

/-- The settings in a file. -/
def ofFile (files : List NamedFile) (name : String) : Except Fault Settings :=
  match NamedFile.contentOf? files name with
  | some content => ofContent name content
  | none => .error (.io (name ++ ": not found"))

/-- The settings in the file named, else in the local file if there is one, else the default. -/
def load (files : List NamedFile) (named : Option String) : Except Fault Settings :=
  match named with
  | some name => ofFile files name
  | none => if (NamedFile.contentOf? files localFile).isSome then ofFile files localFile
    else .ok default

end Settings

end MetricQuery
