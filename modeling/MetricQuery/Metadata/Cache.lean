import MetricQuery.Metadata.Client

/-!
A bounded cache of metadata answers. Only successful answers are kept, each for `maxAge` ticks of
the clock. At most `maxEntries` are held: a full cache first drops what has expired and then, if
need be, the oldest answer. The clock advances with every answer stored, so no two are of one age.
-/

set_option autoImplicit false

namespace MetricQuery

/-- What tells one cached query from another: its arguments, the matchers as one text. -/
inductive CacheKey where
  | labelNames (metric : Option String)
  | labelValues (label : String) (metric : Option String) (matchers : Option String)
  | definitions
  | series (metric : String) (matchers : Option String) (label : Option String)
  deriving DecidableEq, Repr

/-- Matchers as one text. -/
def renderMatchers (matchers : List Matcher) : String :=
  Text.join "," (matchers.map Matcher.render)

/-- The key of a query. -/
def MetadataQuery.key : MetadataQuery → CacheKey
  | .labelNames metric => .labelNames metric
  | .labelValues label metric matchers => .labelValues label metric (matchers.map renderMatchers)
  | .definitions => .definitions
  | .series metric matchers label => .series metric (matchers.map renderMatchers) label

/-- A query, its answer, and when it was stored. -/
structure CacheEntry where
  query : MetadataQuery
  answer : query.Answer
  stored : Nat

/-- The answer of an entry, for a query of the same kind. -/
def CacheEntry.answerFor? : CacheEntry → (q : MetadataQuery) → Option q.Answer
  | ⟨.labelNames _, answer, _⟩, .labelNames _ => some answer
  | ⟨.labelValues _ _ _, answer, _⟩, .labelValues _ _ _ => some answer
  | ⟨.definitions, answer, _⟩, .definitions => some answer
  | ⟨.series _ _ _, answer, _⟩, .series _ _ _ => some answer
  | _, _ => none

/-- Cached answers, the oldest first. -/
structure MetadataCache where
  maxAge : Nat
  maxEntries : Nat
  entries : List CacheEntry
  now : Nat

namespace MetadataCache

/-- Ticks of the clock in a second. -/
def ticksPerSecond : Nat := 1000000000

/-- How many answers a cache holds unless told otherwise. -/
def defaultMaxEntries : Nat := 1000

/-- An empty cache that keeps answers for so many seconds. It holds one answer at least. -/
def ofSeconds (maxAge : Nat) (maxEntries : Nat) : MetadataCache :=
  ⟨maxAge * ticksPerSecond, max maxEntries 1, [], 0⟩

/-- How many answers the cache holds, expired ones included. -/
def size (c : MetadataCache) : Nat := c.entries.length

/-- Drops every answer. -/
def clear (c : MetadataCache) : MetadataCache := { c with entries := [] }

/-- Lets time pass. -/
def wait (c : MetadataCache) (ticks : Nat) : MetadataCache := { c with now := c.now + ticks }

/-- Whether an entry is too old to be used. -/
def isExpired (c : MetadataCache) (e : CacheEntry) : Bool := c.maxAge ≤ c.now - e.stored

/-- The entry of a key, expired or not. -/
def find? (c : MetadataCache) (key : CacheKey) : Option CacheEntry :=
  c.entries.find? (·.query.key == key)

/-- The cache without the entry of a key. -/
def erase (c : MetadataCache) (key : CacheKey) : MetadataCache :=
  { c with entries := c.entries.filter (·.query.key != key) }

/-- Makes room for one more entry: what has expired goes and, where that is not enough, the entry
that was stored first. Entries stand in the order in which they were stored (`Mirrors.aging`), so
that entry is the head of the list. -/
def evict (c : MetadataCache) : MetadataCache :=
  let fresh := c.entries.filter fun e => !c.isExpired e
  { c with entries := if fresh.length < c.maxEntries then fresh else fresh.tail }

/-- Stores an answer as the newest; an older one to the same query goes. -/
def store (c : MetadataCache) (q : MetadataQuery) (answer : q.Answer) : MetadataCache :=
  let roomy := if (c.find? q.key).isNone ∧ c.maxEntries ≤ c.size then c.evict else c
  let kept := roomy.erase q.key
  { kept with entries := kept.entries ++ [⟨q, answer, c.now⟩], now := c.now + 1 }

/-- The cached answer to a query, and the cache without it if it has expired. -/
def lookup (c : MetadataCache) (q : MetadataQuery) : Option q.Answer × MetadataCache :=
  match c.find? q.key with
  | none => (none, c)
  | some e => if c.isExpired e then (none, c.erase q.key) else (e.answerFor? q, c)

/-- Asks the cache first and the client behind it, which takes `ticks` to answer, only when the
cache has no answer. -/
def clientTaking {σ : Type} (ticks : Nat) (inner : MetadataClient σ) :
    MetadataClient (MetadataCache × σ) where
  ask q := fun (cache, s) =>
    match cache.lookup q with
    | (some answer, cache) => (.ok answer, cache, s)
    | (none, cache) =>
      match inner.ask q s with
      | (.ok answer, s) => (.ok answer, (cache.wait ticks).store q answer, s)
      | (.error fault, s) => (.error fault, cache.wait ticks, s)

/-- The cache in front of a client that answers at once. -/
def client {σ : Type} (inner : MetadataClient σ) : MetadataClient (MetadataCache × σ) :=
  clientTaking 0 inner

end MetadataCache

end MetricQuery
