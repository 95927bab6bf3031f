import MetricQuery.Metadata.Api
import MetricQuery.Metadata.Cache
import MetricQuery.Remote.Assist
import MetricQuery.Settings
import MetricQuery.Typing.Check

/-!
Assistants. An assistant completes and lints; settings decide where it takes that from. A language
service does both. Without one, linting is done here, and completion knows fixed suggestions only
or asks a metrics server through a cache. An answer of a language service may end the work of an
assistant for good.
-/

set_option autoImplicit false

namespace MetricQuery

/-- Completes a text at a byte offset, and lints a text. What it remembers is `σ`. -/
structure Assistant (σ : Type) where
  complete : Text → Nat → σ → Option CompletionResult × σ
  lint : Text → σ → List Diagnostic × σ
  /-- Whether the assistant has come to the end of its work. Nobody hears what it said on the way
  into such a state, or says in it. -/
  broken : σ → Bool := fun _ => false

/-- Where completions come from. -/
inductive CompletionSource where
  | fixed
  | metrics (api : MetadataApi) (maxDefinitions : Nat)
  | remote (service : Remote.Service) (limit : Nat)
  deriving DecidableEq, Repr

/-- Where diagnostics come from. -/
inductive LintSource where
  | builtin
  | remote (service : Remote.Service) (limit : Nat)
  deriving DecidableEq, Repr

namespace ServiceSettings

/-- The language service that settings name. -/
def service (s : ServiceSettings) : Except Fault Remote.Service :=
  s.requireUrl.map Remote.Service.ofUrl

/-- Where settings take completions from. A language service is preferred to staying offline. -/
def completionSource (s : ServiceSettings) : Except Fault CompletionSource :=
  if s.remote then s.service.map (.remote · s.limit)
  else if s.offline then .ok .fixed
  else s.requireUrl.map fun url => .metrics (.ofUrl url s.lookback) s.maxDefinitions

/-- Where settings take diagnostics from. -/
def lintSource (s : ServiceSettings) : Except Fault LintSource :=
  if s.remote then s.service.map (.remote · s.limit) else .ok .builtin

/-- The empty cache of settings. -/
def cache (s : ServiceSettings) : MetadataCache :=
  .ofSeconds s.cacheMaxAge MetadataCache.defaultMaxEntries

end ServiceSettings

variable {σ : Type}

/-- Completes a text from a source; failed fetches go unreported. -/
def CompletionSource.complete (source : CompletionSource) (transport : Http.Transport σ)
    (text : Text) (pos : Nat) :
    MetadataCache × σ → Except Text.Overflow (Option CompletionResult) × MetadataCache × σ :=
  fun (cache, s) =>
    match source with
    | .fixed =>
      let outcome := Completion.complete none Completion.defaultMaxDefinitions text pos s
      (.ok outcome.result, cache, outcome.state)
    | .metrics api maxDefinitions =>
      let client := MetadataCache.client (api.client transport)
      let outcome := Completion.complete (some client) maxDefinitions text pos (cache, s)
      (.ok outcome.result, outcome.state)
    | .remote service limit =>
      let (result, s) := Remote.complete service transport limit text pos s
      (result, cache, s)

/-- What a source finds in a text. -/
def LintSource.examine (source : LintSource) (transport : Http.Transport σ) (text : Text) (s : σ) :
    Except Text.Overflow (Except Fault (List Diagnostic)) × σ :=
  match source with
  | .builtin => (.ok (.ok (MetricQuery.lint text)), s)
  | .remote service limit => Remote.lint service transport limit text s

/-- Lints a text from a source; one that fails finds nothing. -/
def LintSource.lint (source : LintSource) (transport : Http.Transport σ) (text : Text) (s : σ) :
    Except Text.Overflow (List Diagnostic) × σ :=
  let (answer, s) := source.examine transport text s
  (answer.map fun found => found.toOption.getD [], s)

namespace Assistant

/-- What an assistant remembers of its sources, until they bring it to the end of its work. -/
abbrev Memory (σ : Type) : Type := Except Text.Overflow (MetadataCache × σ)

/-- Does some work with what is remembered. Where the work comes to an end, that alone is remembered
and there is nothing but `nothing` to give. -/
def working {α : Type} (nothing : α)
    (work : MetadataCache × σ → Except Text.Overflow α × MetadataCache × σ) :
    Memory σ → α × Memory σ
  | .error overflow => (nothing, .error overflow)
  | .ok memory =>
    match work memory with
    | (.ok found, memory) => (found, .ok memory)
    | (.error overflow, _) => (nothing, .error overflow)

/-- The assistant that takes completions and diagnostics from the given sources. -/
def ofSources (completions : CompletionSource) (diagnostics : LintSource)
    (transport : Http.Transport σ) : Assistant (Memory σ) where
  complete text pos := working none (completions.complete transport text pos)
  lint text := working [] fun (cache, s) =>
    let (found, s) := diagnostics.lint transport text s
    (found, cache, s)
  broken memory := !memory.isOk

/-- The assistant that settings describe. -/
def ofSettings (s : ServiceSettings) (transport : Http.Transport σ) :
    Except Fault (Assistant (Memory σ)) := do
  let completions ← s.completionSource
  let diagnostics ← s.lintSource
  return ofSources completions diagnostics transport

/-- The assistant that lints here and completes with the help of a client. -/
def ofClient (client : Option (MetadataClient σ)) (maxDefinitions : Nat) : Assistant σ where
  complete text pos s :=
    let outcome := Completion.complete client maxDefinitions text pos s
    (outcome.result, outcome.state)
  lint text s := (MetricQuery.lint text, s)

end Assistant

end MetricQuery
