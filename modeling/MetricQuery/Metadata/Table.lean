import MetricQuery.Metadata.Client

/-!
A metadata client that answers from tables in memory. It keeps a log of the queries it was asked,
and any kind of query can be made to fail.
-/

set_option autoImplicit false

namespace MetricQuery

/-- What is known, and which kinds of query fail. -/
structure MetadataTable where
  labelNames : List (Option String × List String)
  labelValues : List (String × List String)
  definitions : Definitions
  series : List LabelSet
  failures : List (MetadataQuery.Method × Fault)
  /-- The queries asked so far, in order. -/
  log : List MetadataQuery

namespace MetadataTable

/-- A table that knows nothing. -/
def empty : MetadataTable := ⟨[], [], [], [], [], []⟩

/-- The entry of a key in a list of pairs, empty when there is none. -/
def entry {α β : Type} [BEq α] (key : α) (pairs : List (α × List β)) : List β :=
  ((pairs.find? (·.1 == key)).map Prod.snd).getD []

/-- What the table says about a query. -/
def answer (t : MetadataTable) : (q : MetadataQuery) → q.Answer
  | .labelNames metric => entry metric t.labelNames
  | .labelValues label _ _ => entry label t.labelValues
  | .definitions => t.definitions
  | .series _ _ _ => t.series

/-- Makes a kind of query fail, or work again. -/
def setFailure (t : MetadataTable) (method : MetadataQuery.Method) (fault : Option Fault) :
    MetadataTable :=
  { t with
    failures := t.failures.filter (·.1 != method) ++ (fault.map (method, ·)).toList }

/-- The client that answers from its table. -/
def client : MetadataClient MetadataTable where
  ask q t :=
    let logged := { t with log := t.log ++ [q] }
    match t.failures.find? (·.1 == q.method) with
    | some (_, fault) => (.error fault, logged)
    | none => (.ok (t.answer q), logged)

end MetadataTable

end MetricQuery
