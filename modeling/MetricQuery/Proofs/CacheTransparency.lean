import MetricQuery.Proofs.CacheKey

/-!
A cache is transparent. What it holds under a key is what the client behind it answers to the one
query with that key, and neither time, eviction nor clearing can change an answer it keeps. So
whoever asks the cache learns what the client would have said. A client that names metrics in a way
of its own is never asked for its names: there the cache gives the names among the answers instead.
-/

set_option autoImplicit false

namespace MetricQuery

variable {σ : Type}

/-- Something a client can be called for: a query, or the names of metrics. -/
inductive MetadataCall where
  | ask (query : MetadataQuery)
  | metricNames (start : Option String)

namespace MetadataCall

/-- What a successful call returns. -/
abbrev Reply : MetadataCall → Type
  | .ask query => query.Answer
  | .metricNames _ => List String

/-- Every matcher of the call asks about an identifier. -/
def Named : MetadataCall → Prop
  | .ask query => query.Named
  | .metricNames _ => True

end MetadataCall

/-- A call and what came back. -/
abbrev CallResult := Σ call : MetadataCall, Except Fault call.Reply

namespace MetadataClient

/-- What a client returns for a call. -/
def call (client : MetadataClient σ) : (call : MetadataCall) → σ → Except Fault call.Reply × σ
  | .ask query, s => client.ask query s
  | .metricNames start, s => client.metricNames start s

/-- The state of a client that was asked some queries. -/
def after (client : MetadataClient σ) (asked : List MetadataQuery) (s : σ) : σ :=
  asked.foldl (fun s q => (client.ask q s).2) s

/-- From `s` on, whatever else it is asked, the client answers each query as `answer` says. -/
def Stateless (client : MetadataClient σ) (answer : (q : MetadataQuery) → Except Fault q.Answer)
    (s : σ) : Prop :=
  ∀ asked q, (client.ask q (client.after asked s)).1 = answer q

namespace Stateless

variable {client : MetadataClient σ} {answer : (q : MetadataQuery) → Except Fault q.Answer} {s : σ}

theorem ask (stateless : client.Stateless answer s) (q : MetadataQuery) :
    (client.ask q s).1 = answer q :=
  stateless [] q

theorem next (stateless : client.Stateless answer s) (q : MetadataQuery) :
    client.Stateless answer (client.ask q s).2 :=
  fun asked r => stateless (q :: asked) r

end Stateless

/-- All calls are answered from the answers to queries. -/
theorem call_eq_of_ask_eq {client : MetadataClient σ} {s : σ} {τ : Type}
    {other : MetadataClient τ} {t : τ} (call : MetadataCall)
    (same : ∀ q, call = .ask q ∨ q = metricNamesQuery →
      (client.ask q s).1 = (other.ask q t).1) :
    (client.call call s).1 = (other.call call t).1 := by
  cases call with
  | ask query => exact same query (.inl rfl)
  | metricNames start =>
    have names := same metricNamesQuery (.inr rfl)
    simp only [MetadataClient.call, metricNames]
    rw [names]

end MetadataClient

namespace NamingClient

/-- What a client returns for a call; for names it has its own way. -/
def call (client : NamingClient σ) : (call : MetadataCall) → σ → Except Fault call.Reply × σ
  | .ask query, s => client.ask query s
  | .metricNames start, s => client.names start s

/-- The state of a client that was called for something. -/
def after (client : NamingClient σ) (calls : List MetadataCall) (s : σ) : σ :=
  calls.foldl (fun s call => (client.call call s).2) s

/-- From `s` on, whatever else it is called for, the client returns for each call what `reply`
says. -/
def Stateless (client : NamingClient σ) (reply : (call : MetadataCall) → Except Fault call.Reply)
    (s : σ) : Prop :=
  ∀ calls call, (client.call call (client.after calls s)).1 = reply call

/-- The names that start with `start` are the ones among the answers. -/
def NamesAsAnswered (reply : (call : MetadataCall) → Except Fault call.Reply)
    (start : Option String) : Prop :=
  reply (.metricNames start) =
    (reply (.ask MetadataClient.metricNamesQuery)).map (MetadataClient.namesFrom start)

variable {client : NamingClient σ} {reply : (call : MetadataCall) → Except Fault call.Reply} {s : σ}

theorem Stateless.call (stateless : client.Stateless reply s) (call : MetadataCall) :
    (client.call call s).1 = reply call :=
  stateless [] call

/-- Asked for answers only, a client that does not change its mind answers in one way. -/
theorem Stateless.asked (stateless : client.Stateless reply s) :
    client.toMetadataClient.Stateless (fun q => reply (.ask q)) s := by
  intro queries q
  have same : client.after (queries.map .ask) s = client.toMetadataClient.after queries s := by
    rw [after, List.foldl_map]
    rfl
  rw [← same]
  exact stateless (queries.map .ask) (.ask q)

/-- What is made of the answers is what the client returns, unless it has other names. -/
theorem Stateless.call_eq_iff (stateless : client.Stateless reply s) (call : MetadataCall) :
    (client.toMetadataClient.call call s).1 = (client.call call s).1 ↔
      ∀ start, call = .metricNames start → NamesAsAnswered reply start := by
  rw [stateless.call]
  cases call with
  | ask query => exact iff_of_true (stateless.asked.ask query) nofun
  | metricNames start =>
    have answered := stateless.asked.ask MetadataClient.metricNamesQuery
    have names : (client.toMetadataClient.call (.metricNames start) s).1 =
        (reply (.ask MetadataClient.metricNamesQuery)).map (MetadataClient.namesFrom start) := by
      rw [← answered]
      rfl
    rw [names]
    constructor
    · rintro same _ ⟨⟩
      exact same.symm
    · exact fun named => (named start rfl).symm

end NamingClient

/-- What a cache lives through: a call that the client behind it takes `ticks` to answer, if it is
asked at all; a clearing; or time that passes. -/
inductive CacheEvent where
  | request (call : MetadataCall) (ticks : Nat)
  | clear
  | wait (ticks : Nat)

namespace CacheEvent

/-- The call of an event. -/
def call? : CacheEvent → Option MetadataCall
  | .request call _ => some call
  | _ => none

/-- Every matcher of the event asks about an identifier. -/
def Named (event : CacheEvent) : Prop := ∀ call, event.call? = some call → call.Named

end CacheEvent

namespace MetadataCache

/-- What one event returns and leaves behind. -/
def serve (inner : MetadataClient σ) (event : CacheEvent) (state : MetadataCache × σ) :
    Option CallResult × MetadataCache × σ :=
  match event with
  | .request call ticks =>
    let (reply, state) := (clientTaking ticks inner).call call state
    (some ⟨call, reply⟩, state)
  | .clear => (none, state.1.clear, state.2)
  | .wait ticks => (none, state.1.wait ticks, state.2)

/-- What a sequence of events returns. Names of metrics are made of answers by the cache itself, so
there is no use for any other names of the client behind it. -/
def serveAll (inner : MetadataClient σ) : List CacheEvent → MetadataCache × σ → List CallResult
  | [], _ => []
  | event :: events, state =>
    let (result, state) := serve inner event state
    result.toList ++ serveAll inner events state

/-- Every entry holds the answer to its query. -/
def Faithful (answer : (q : MetadataQuery) → Except Fault q.Answer) (c : MetadataCache) : Prop :=
  ∀ e ∈ c.entries, e.query.Named ∧ answer e.query = .ok e.answer

namespace Faithful

variable {answer : (q : MetadataQuery) → Except Fault q.Answer} {c d : MetadataCache}

/-- Dropping entries does no harm. -/
theorem of_subset (faithful : c.Faithful answer) (fewer : d.entries ⊆ c.entries) :
    d.Faithful answer :=
  fun e member => faithful e (fewer member)

theorem clear (c : MetadataCache) : c.clear.Faithful answer := by
  intro e member
  cases member

theorem wait (faithful : c.Faithful answer) (ticks : Nat) : (c.wait ticks).Faithful answer :=
  faithful

theorem erase (faithful : c.Faithful answer) (key : CacheKey) : (c.erase key).Faithful answer := by
  apply faithful.of_subset
  exact List.filter_subset_self c.entries

theorem evict (faithful : c.Faithful answer) : c.evict.Faithful answer := by
  apply faithful.of_subset
  have fresh : c.entries.filter (fun e => !c.isExpired e) ⊆ c.entries :=
    List.filter_subset_self c.entries
  simp only [MetadataCache.evict]
  split
  · exact fresh
  · exact fun e member => fresh (List.mem_of_mem_tail member)

theorem store (faithful : c.Faithful answer) {q : MetadataQuery} (named : q.Named)
    {a : q.Answer} (right : answer q = .ok a) : (c.store q a).Faithful answer := by
  have roomy : (if (c.find? q.key).isNone ∧ c.maxEntries ≤ c.size then c.evict
      else c).Faithful answer := by
    split
    · exact faithful.evict
    · exact faithful
  intro e member
  rcases List.mem_append.mp member with kept | new
  · exact roomy.erase q.key e kept
  · rw [List.mem_singleton.mp new]
    exact ⟨named, right⟩

theorem lookup (faithful : c.Faithful answer) (q : MetadataQuery) :
    (c.lookup q).2.Faithful answer := by
  unfold MetadataCache.lookup
  split
  · exact faithful
  · split
    · exact faithful.erase q.key
    · exact faithful

end Faithful

/-- An entry gives its answer to its own query. -/
theorem answerFor?_self (e : CacheEntry) : e.answerFor? e.query = some e.answer := by
  obtain ⟨query, answer, stored⟩ := e
  cases query <;> rfl

/-- A hit is the right answer: the entry under the key of a query is one of that very query. -/
theorem lookup_hit {answer : (q : MetadataQuery) → Except Fault q.Answer} {c : MetadataCache}
    (faithful : c.Faithful answer) {q : MetadataQuery} (named : q.Named) {a : q.Answer}
    (hit : (c.lookup q).1 = some a) : answer q = .ok a := by
  unfold lookup at hit
  split at hit
  · cases hit
  · rename_i e found
    have member : e ∈ c.entries := List.mem_of_find?_eq_some found
    obtain ⟨entryNamed, right⟩ := faithful e member
    have key : e.query.key = q.key := by simpa using List.find?_some found
    obtain rfl := MetadataQuery.key_inj entryNamed named key
    split at hit
    · cases hit
    · rw [answerFor?_self, Option.some.injEq] at hit
      rw [right, hit]

/-- What holds between events: the cache is faithful and the client behind it has not changed its
mind. -/
structure Sound (inner : MetadataClient σ) (answer : (q : MetadataQuery) → Except Fault q.Answer)
    (state : MetadataCache × σ) : Prop where
  faithful : state.1.Faithful answer
  stateless : inner.Stateless answer state.2

section

variable {inner : MetadataClient σ} {answer : (q : MetadataQuery) → Except Fault q.Answer}
  {state : MetadataCache × σ}

/-- Asking a sound cache gives the answer, be it a hit or a miss, and leaves it sound. -/
theorem ask_sound (sound : Sound inner answer state) (ticks : Nat) {q : MetadataQuery}
    (named : q.Named) :
    ((clientTaking ticks inner).ask q state).1 = answer q ∧
      Sound inner answer ((clientTaking ticks inner).ask q state).2 := by
  obtain ⟨cache, s⟩ := state
  have kept := sound.faithful.lookup q
  have right := sound.stateless.ask q
  have next := sound.stateless.next q
  simp only [clientTaking]
  cases looked : cache.lookup q with
  | mk found cache' =>
    rw [looked] at kept
    cases found with
    | some a =>
      have hit : answer q = .ok a := lookup_hit sound.faithful named (by rw [looked])
      exact ⟨hit.symm, kept, sound.stateless⟩
    | none =>
      cases asked : inner.ask q s with
      | mk reply s' =>
        rw [asked] at right next
        cases reply with
        | ok a => exact ⟨right, (kept.wait ticks).store named right.symm, next⟩
        | error fault => exact ⟨right, kept.wait ticks, next⟩

/-- A call to a sound cache returns what a direct call does, and leaves the cache sound. -/
theorem call_sound (sound : Sound inner answer state) (ticks : Nat) {call : MetadataCall}
    (named : call.Named) {s : σ} (direct : inner.Stateless answer s) :
    ((clientTaking ticks inner).call call state).1 = (inner.call call s).1 ∧
      Sound inner answer ((clientTaking ticks inner).call call state).2 := by
  have names : MetadataClient.metricNamesQuery.Named := by
    intro m member
    cases member
  constructor
  · apply MetadataClient.call_eq_of_ask_eq
    rintro q (rfl | rfl)
    · rw [(ask_sound sound ticks named).1, direct.ask]
    · rw [(ask_sound sound ticks names).1, direct.ask]
  · cases call with
    | ask query => exact (ask_sound sound ticks named).2
    | metricNames start => exact (ask_sound sound ticks names).2

/-- One event of a sound cache returns what the client behind it does, and leaves it sound. -/
theorem serve_sound (sound : Sound inner answer state) {event : CacheEvent} (named : event.Named)
    {s : σ} (direct : inner.Stateless answer s) :
    (serve inner event state).1 =
        event.call?.map (fun call => ⟨call, (inner.call call s).1⟩) ∧
      Sound inner answer (serve inner event state).2 := by
  cases event with
  | request call ticks =>
    obtain ⟨reply, after⟩ := call_sound sound ticks (named call rfl) direct
    refine ⟨?_, after⟩
    simp only [serve, CacheEvent.call?, Option.map_some]
    rw [reply]
  | clear => exact ⟨rfl, .clear state.1, sound.stateless⟩
  | wait ticks => exact ⟨rfl, sound.faithful.wait ticks, sound.stateless⟩

/-- Sequences of events on a sound cache return what the client behind it does. -/
theorem serveAll_eq (sound : Sound inner answer state) {s : σ}
    (direct : inner.Stateless answer s) (events : List CacheEvent)
    (named : ∀ event ∈ events, event.Named) :
    serveAll inner events state =
      (events.filterMap CacheEvent.call?).map fun call => ⟨call, (inner.call call s).1⟩ := by
  induction events generalizing state with
  | nil => rfl
  | cons event events ih =>
    obtain ⟨result, after⟩ := serve_sound sound (named event List.mem_cons_self) direct
    have later := ih after fun e member => named e (List.mem_cons_of_mem event member)
    simp only [serveAll]
    rw [later, result]
    cases found : event.call? with
    | none => simp [found]
    | some call => simp [found]

end

/-- A cache that starts out empty, whatever its age and size limits, however long calls take and
whatever time passes between them: each query is answered as by the client behind the cache, and the
names of metrics are the ones among its answers. So the cache is transparent exactly where the names
that are called for are those that the client gives itself. -/
theorem serveAll_transparent_iff (inner : NamingClient σ)
    (reply : (call : MetadataCall) → Except Fault call.Reply) (s : σ)
    (stateless : inner.Stateless reply s) (maxAge maxEntries now : Nat)
    (events : List CacheEvent) (named : ∀ event ∈ events, event.Named) :
    let calls := events.filterMap CacheEvent.call?
    let returned := serveAll inner.toMetadataClient events (⟨maxAge, maxEntries, [], now⟩, s)
    (returned = calls.map fun call => ⟨call, (inner.toMetadataClient.call call s).1⟩) ∧
      ((returned = calls.map fun call => ⟨call, (inner.call call s).1⟩) ↔
        ∀ start, .metricNames start ∈ calls → NamingClient.NamesAsAnswered reply start) := by
  intro calls returned
  have empty : MetadataCache.Faithful (fun q => reply (.ask q)) ⟨maxAge, maxEntries, [], now⟩ := by
    intro e member
    cases member
  have behind : returned =
      calls.map fun call => ⟨call, (inner.toMetadataClient.call call s).1⟩ :=
    serveAll_eq ⟨empty, stateless.asked⟩ stateless.asked events named
  refine ⟨behind, ?_⟩
  rw [behind, List.map_inj_left]
  constructor
  · intro same start member
    have one := eq_of_heq (Sigma.mk.inj (same (.metricNames start) member)).2
    exact (stateless.call_eq_iff (.metricNames start)).mp one start rfl
  · rintro answered call member
    have one := (stateless.call_eq_iff call).mpr fun start same => answered start (same ▸ member)
    rw [one]

/-- A client that has values of the name label, but keeps the names of metrics to itself. -/
def secretive : NamingClient Unit where
  ask
    | .labelNames _, s => (.ok [], s)
    | .labelValues _ _ _, s => (.ok ["up"], s)
    | .definitions, s => (.ok [], s)
    | .series _ _ _, s => (.ok [], s)
  names _ s := (.error (.answer "bad_data" "names are kept elsewhere"), s)

/-- A cache gives names that the client behind it refuses to give. -/
theorem serveAll_secretive :
    let events : List CacheEvent := [.request (.metricNames (some "u")) 0]
    secretive.Stateless (fun call => (secretive.call call ()).1) () ∧
      (∀ event ∈ events, event.Named) ∧
      serveAll secretive.toMetadataClient events (⟨10, 1, [], 0⟩, ()) =
        [⟨.metricNames (some "u"), .ok ["up"]⟩] ∧
      (secretive.call (.metricNames (some "u")) ()).1 =
        .error (.answer "bad_data" "names are kept elsewhere") := by
  refine ⟨fun _ _ => rfl, ?_, rfl, rfl⟩
  rintro event member call found
  rw [List.mem_singleton.mp member] at found
  obtain rfl := Option.some.inj found
  trivial

/-- A client that gives back the values it is asked to match, and knows no definitions. -/
def echo : MetadataClient Unit where
  ask
    | .labelNames metric, s => (.ok metric.toList, s)
    | .labelValues _ _ matchers, s => (.ok ((matchers.getD []).map Matcher.value), s)
    | .definitions, s => (.error (.answer "not_found" "no definitions"), s)
    | .series _ _ _, s => (.ok [], s)

/-- Two queries the matchers of which would read the same if quotes were not escaped, asked of the
cache one after the other, and then something that fails. -/
def confusable : List CacheEvent :=
  [.request (.ask (.labelValues "job" none (some [⟨.eqlSingle, "a", "x\",b=\"y"⟩]))) 3,
    .request (.ask (.labelValues "job" none
      (some [⟨.eqlSingle, "a", "x"⟩, ⟨.eqlSingle, "b", "y"⟩]))) 0,
    .wait 4, .request (.metricNames (some "u")) 1, .clear, .request (.ask .definitions) 2]

theorem confusable_named : ∀ event ∈ confusable, event.Named := by
  have label : ∀ name ∈ [['a'], ['b']], Text.IsIdentifier name := by
    intro name member
    simp only [List.mem_cons, List.not_mem_nil, or_false] at member
    rcases member with rfl | rfl
    · exact ⟨rfl, by simp⟩
    · exact ⟨rfl, by simp⟩
  intro event member call found
  simp only [confusable, List.mem_cons, List.not_mem_nil, or_false] at member
  rcases member with rfl | rfl | rfl | rfl | rfl | rfl
  · obtain rfl := Option.some.inj found
    intro m inside
    rw [List.mem_singleton.mp inside]
    exact label ['a'] (by simp)
  · obtain rfl := Option.some.inj found
    intro m inside
    simp only [MetadataQuery.matchers, Option.getD_some, List.mem_cons, List.not_mem_nil,
      or_false] at inside
    rcases inside with rfl | rfl
    · exact label ['a'] (by simp)
    · exact label ['b'] (by simp)
  · cases found
  · obtain rfl := Option.some.inj found
    trivial
  · cases found
  · obtain rfl := Option.some.inj found
    intro m inside
    cases inside

/-- The cache tells the confusable queries apart, with room for one answer only. -/
theorem serveAll_confusable :
    let client := echo.naming
    let reply := fun call => (client.call call ()).1
    client.Stateless reply () ∧ (∀ event ∈ confusable, event.Named) ∧
      (∀ start, NamingClient.NamesAsAnswered reply start) ∧
      serveAll echo confusable (⟨10, 1, [], 0⟩, ()) =
        (confusable.filterMap CacheEvent.call?).map fun call => ⟨call, reply call⟩ := by
  intro client reply
  have stateless : client.Stateless reply () := fun _ _ => rfl
  have answered : ∀ start, NamingClient.NamesAsAnswered reply start := fun _ => rfl
  obtain ⟨-, transparent⟩ :=
    serveAll_transparent_iff client reply () stateless 10 1 0 confusable confusable_named
  exact ⟨stateless, confusable_named, answered, transparent.mpr fun start _ => answered start⟩

end MetadataCache

end MetricQuery
