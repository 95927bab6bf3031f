import MetricQuery.Proofs.CacheTransparency
import Mathlib.Data.List.DropRight

/-!
What a cache holds. Whatever it is asked, and however often the client behind it fails or changes
its mind, a cache from which nothing expires holds the last fetches that succeeded since it was
cleared, as many as there is room for and each under a key of its own. A call reaches the client
exactly where the cache does not hold its key.
-/

set_option autoImplicit false

namespace MetricQuery

variable {σ : Type}

/-- The last elements of a list, one fewer than `n`: the first of the last `n` goes if there are
that many. -/
theorem rtake_pred {α : Type} (l : List α) {n : Nat} (pos : 0 < n) :
    l.rtake (n - 1) = if n ≤ (l.rtake n).length then (l.rtake n).tail else l.rtake n := by
  simp only [List.rtake, List.length_drop]
  by_cases full : n ≤ l.length
  · have count : l.length - (l.length - n) = n := by omega
    have place : l.length - (n - 1) = l.length - n + 1 := by omega
    rw [count, if_pos (Nat.le_refl n), List.tail_drop, place]
  · have none : l.length - n = 0 := by omega
    have fewer : l.length - (n - 1) = 0 := by omega
    rw [none, fewer, if_neg (by omega)]

/-- A query that reached a client, and what came back. -/
structure Fetch where
  query : MetadataQuery
  reply : Except Fault query.Answer

/-- Whether a fetch brought an answer. -/
def Fetch.succeeded (fetch : Fetch) : Bool :=
  match fetch.reply with
  | .ok _ => true
  | .error _ => false

/-- The fetch that an entry comes from. -/
def CacheEntry.fetch (e : CacheEntry) : Fetch := ⟨e.query, .ok e.answer⟩

/-- A client that notes every fetch. -/
def MetadataClient.recording (inner : MetadataClient σ) : MetadataClient (List Fetch × σ) where
  ask q := fun (fetched, s) =>
    let (reply, s) := inner.ask q s
    (reply, fetched ++ [⟨q, reply⟩], s)

namespace MetadataCall

/-- The query behind a call: names of metrics are values of the label that holds them. -/
def query : MetadataCall → MetadataQuery
  | .ask query => query
  | .metricNames _ => MetadataClient.metricNamesQuery

/-- What a call makes of the reply to its query. -/
def replyOf : (call : MetadataCall) → Except Fault call.query.Answer → Except Fault call.Reply
  | .ask _, reply => reply
  | .metricNames start, reply => reply.map fun names =>
    names.filter fun name => ((start.getD "").toList).isPrefixOf name.toList

/-- Every call returns the fault of its query. -/
theorem replyOf_error (call : MetadataCall) (fault : Fault) :
    call.replyOf (.error fault) = .error fault := by
  cases call <;> rfl

end MetadataCall

theorem MetadataClient.call_eq (client : MetadataClient σ) (call : MetadataCall) (s : σ) :
    client.call call s =
      (call.replyOf (client.ask call.query s).1, (client.ask call.query s).2) := by
  cases call <;> rfl

/-- Entries answer every query that shares their key. -/
theorem CacheEntry.exists_answerFor? {e : CacheEntry} {q : MetadataQuery}
    (same : e.query.key = q.key) : ∃ a, e.answerFor? q = some a := by
  obtain ⟨query, answer, stored⟩ := e
  cases query <;> cases q <;> first | exact ⟨answer, rfl⟩ | cases same

namespace MetadataCache

/-- The keys under which a cache holds answers. -/
def keys (c : MetadataCache) : List CacheKey := c.entries.map fun e => e.query.key

theorem find?_eq_none_iff {c : MetadataCache} {key : CacheKey} :
    c.find? key = none ↔ key ∉ c.keys := by
  simp [find?, keys]

/-- No answer is too old. -/
def Fresh (c : MetadataCache) : Prop := ∀ e ∈ c.entries, c.isExpired e = false

theorem lookup_of_notMem {c : MetadataCache} {q : MetadataQuery} (absent : q.key ∉ c.keys) :
    c.lookup q = (none, c) := by
  rw [lookup, find?_eq_none_iff.mpr absent]

/-- A fresh cache answers every query whose key it holds, and stays as it is. -/
theorem lookup_of_mem {c : MetadataCache} (fresh : c.Fresh) {q : MetadataQuery}
    (cached : q.key ∈ c.keys) :
    ∃ e ∈ c.entries, e.query.key = q.key ∧
      ∃ a, e.answerFor? q = some a ∧ c.lookup q = (some a, c) := by
  cases found : c.find? q.key with
  | none => exact absurd cached (find?_eq_none_iff.mp found)
  | some e =>
    have member : e ∈ c.entries := List.mem_of_find?_eq_some found
    have key : e.query.key = q.key := by simpa using List.find?_some found
    obtain ⟨a, answers⟩ := CacheEntry.exists_answerFor? key
    refine ⟨e, member, key, a, answers, ?_⟩
    rw [lookup, found]
    simp only [fresh e member, Bool.false_eq_true, ↓reduceIte, answers]

/-- Storing under a new key drops the oldest answer of a full cache, and nothing else. -/
theorem store_entries {c : MetadataCache} (fresh : c.Fresh) {q : MetadataQuery}
    (absent : q.key ∉ c.keys) (a : q.Answer) :
    (c.store q a).entries =
      (if c.maxEntries ≤ c.size then c.entries.tail else c.entries) ++ [⟨q, a, c.now⟩] := by
  have all : c.entries.filter (fun e => !c.isExpired e) = c.entries :=
    List.filter_eq_self.mpr fun e member => by simp [fresh e member]
  have roomy : (if (c.find? q.key).isNone ∧ c.maxEntries ≤ c.size then c.evict else c).entries =
      if c.maxEntries ≤ c.size then c.entries.tail else c.entries := by
    rw [find?_eq_none_iff.mpr absent]
    by_cases full : c.maxEntries ≤ c.size
    · have notRoomy : ¬ c.entries.length < c.maxEntries := Nat.not_lt.mpr full
      simp [full, evict, all, notRoomy]
    · simp [full]
  have kept : (if c.maxEntries ≤ c.size then c.entries.tail else c.entries) ⊆ c.entries := by
    split
    · exact (List.tail_sublist c.entries).subset
    · exact List.Subset.refl c.entries
  simp only [store, erase, roomy]
  rw [List.filter_eq_self.mpr]
  intro e member
  have other : e.query.key ≠ q.key := by
    intro same
    exact absent (same ▸ List.mem_map_of_mem (kept member))
  simpa using other

/-- Storing an answer takes a moment and changes no limit. -/
theorem store_limits (c : MetadataCache) (q : MetadataQuery) (a : q.Answer) :
    (c.store q a).maxAge = c.maxAge ∧ (c.store q a).maxEntries = c.maxEntries ∧
      (c.store q a).now = c.now + 1 := by
  unfold store
  split
  · exact ⟨rfl, rfl, rfl⟩
  · exact ⟨rfl, rfl, rfl⟩

theorem lookup_now (c : MetadataCache) (q : MetadataQuery) : (c.lookup q).2.now = c.now := by
  unfold lookup
  split
  · rfl
  · split <;> rfl

/-- A cache, the fetches since it was last cleared, and the client behind it. -/
abbrev Observed (σ : Type) := MetadataCache × List Fetch × σ

/-- What an event leaves behind. Clearing the cache starts a new list of fetches. -/
def observe (inner : MetadataClient σ) (state : Observed σ) (event : CacheEvent) : Observed σ :=
  let (cache, fetched, s) := (serve inner.recording event state).2
  match event with
  | .clear => (cache, [], s)
  | _ => (cache, fetched, s)

/-- What a sequence of events leaves behind. -/
def observeAll (inner : MetadataClient σ) (events : List CacheEvent) (state : Observed σ) :
    Observed σ :=
  events.foldl (observe inner) state

section

variable (inner : MetadataClient σ) (ticks : Nat) {cache : MetadataCache} {q : MetadataQuery}
  (fetched : List Fetch) (s : σ)

/-- A query whose key is held is answered by the cache alone. -/
theorem ask_of_mem (fresh : cache.Fresh) (cached : q.key ∈ cache.keys) :
    ∃ e ∈ cache.entries, e.query.key = q.key ∧ ∃ a, e.answerFor? q = some a ∧
      (clientTaking ticks inner.recording).ask q (cache, fetched, s) =
        (.ok a, cache, fetched, s) := by
  obtain ⟨e, member, key, a, answers, hit⟩ := lookup_of_mem fresh cached
  refine ⟨e, member, key, a, answers, ?_⟩
  simp only [clientTaking, hit]

/-- Any other query reaches the client, whose answer is stored. -/
theorem ask_of_ok (absent : q.key ∉ cache.keys) {a : q.Answer}
    (answered : (inner.ask q s).1 = .ok a) :
    (clientTaking ticks inner.recording).ask q (cache, fetched, s) =
      (.ok a, (cache.wait ticks).store q a, fetched ++ [⟨q, .ok a⟩], (inner.ask q s).2) := by
  simp only [clientTaking, lookup_of_notMem absent, MetadataClient.recording, answered]

/-- Where the client fails, its fault comes back and nothing is stored. -/
theorem ask_of_error (absent : q.key ∉ cache.keys) {fault : Fault}
    (failed : (inner.ask q s).1 = .error fault) :
    (clientTaking ticks inner.recording).ask q (cache, fetched, s) =
      (.error fault, cache.wait ticks, fetched ++ [⟨q, .error fault⟩], (inner.ask q s).2) := by
  simp only [clientTaking, lookup_of_notMem absent, MetadataClient.recording, failed]

theorem observe_request (call : MetadataCall) (state : Observed σ) :
    observe inner state (.request call ticks) =
      ((clientTaking ticks inner.recording).ask call.query state).2 := by
  simp only [observe, serve, MetadataClient.call_eq]

end

/-- Time never goes back. -/
theorem now_le_observe (inner : MetadataClient σ) (state : Observed σ) (event : CacheEvent) :
    state.1.now ≤ (observe inner state event).1.now := by
  obtain ⟨cache, fetched, s⟩ := state
  cases event with
  | request call ticks =>
    have looked := cache.lookup_now call.query
    rw [observe_request]
    simp only [clientTaking]
    generalize cache.lookup call.query = found at looked
    obtain ⟨hit, rest⟩ := found
    change rest.now = cache.now at looked
    cases hit with
    | some a => exact Nat.le_of_eq looked.symm
    | none =>
      dsimp only
      split
      · rw [(store_limits _ _ _).2.2]
        simp only [wait]
        omega
      · simp only [wait]
        omega
  | clear => exact Nat.le_refl _
  | wait ticks => exact Nat.le_add_right _ _

/-- The cache mirrors what was fetched: it holds the last answers, in the order in which they came
and each under a key of its own. It was empty at `start`. -/
structure Mirrors (maxAge capacity start : Nat) (state : Observed σ) : Prop where
  limits : state.1.maxAge = maxAge ∧ state.1.maxEntries = capacity
  began : start ≤ state.1.now
  contents : state.1.entries.map CacheEntry.fetch =
    (state.2.1.filter Fetch.succeeded).rtake capacity
  distinct : state.1.keys.Nodup
  aging : state.1.entries.Pairwise fun d e => d.stored < e.stored
  stored : ∀ e ∈ state.1.entries, start ≤ e.stored ∧ e.stored < state.1.now

namespace Mirrors

variable {maxAge capacity start : Nat} {state : Observed σ} {cache : MetadataCache}
  {fetched : List Fetch} {s : σ}

theorem size_le (mirrors : Mirrors maxAge capacity start state) : state.1.size ≤ capacity := by
  have count := congrArg List.length mirrors.contents
  rw [List.length_map, List.rtake, List.length_drop] at count
  change state.1.entries.length ≤ capacity
  omega

/-- Before the time is up, nothing has expired, and nothing will for a while. -/
theorem fresh_wait (mirrors : Mirrors maxAge capacity start state) (ticks : Nat)
    (lasting : state.1.now + ticks < start + maxAge) : (state.1.wait ticks).Fresh := by
  intro e member
  have age := mirrors.stored e member
  simp only [isExpired, wait, mirrors.limits.1, decide_eq_false_iff_not]
  omega

theorem fresh (mirrors : Mirrors maxAge capacity start state)
    (lasting : state.1.now < start + maxAge) : state.1.Fresh :=
  mirrors.fresh_wait 0 lasting

theorem empty (maxAge capacity start : Nat) (s : σ) :
    Mirrors maxAge capacity start ((⟨maxAge, capacity, [], start⟩, [], s) : Observed σ) :=
  ⟨⟨rfl, rfl⟩, Nat.le_refl _, by simp, List.nodup_nil, .nil, by simp⟩

theorem wait (mirrors : Mirrors maxAge capacity start (cache, fetched, s)) (ticks : Nat) :
    Mirrors maxAge capacity start (cache.wait ticks, fetched, s) := by
  refine ⟨mirrors.limits, ?_, mirrors.contents, mirrors.distinct, mirrors.aging,
    fun e member => ?_⟩
  · have began : start ≤ cache.now := mirrors.began
    change start ≤ cache.now + ticks
    omega
  · have age : start ≤ e.stored ∧ e.stored < cache.now := mirrors.stored e member
    change start ≤ e.stored ∧ e.stored < cache.now + ticks
    omega

/-- A fetch that fails changes nothing. -/
theorem failed (mirrors : Mirrors maxAge capacity start (cache, fetched, s)) (q : MetadataQuery)
    (fault : Fault) (s' : σ) :
    Mirrors maxAge capacity start (cache, fetched ++ [⟨q, .error fault⟩], s') := by
  refine ⟨mirrors.limits, mirrors.began, ?_, mirrors.distinct, mirrors.aging, mirrors.stored⟩
  rw [List.filter_append, List.filter_cons_of_neg (by simp [Fetch.succeeded]), List.filter_nil,
    List.append_nil]
  exact mirrors.contents

/-- An answer to a query with a new key takes its place behind the others. -/
theorem store (mirrors : Mirrors maxAge capacity start (cache, fetched, s)) (room : 0 < capacity)
    (fresh : cache.Fresh) {q : MetadataQuery} (absent : q.key ∉ cache.keys) (a : q.Answer)
    (s' : σ) :
    Mirrors maxAge capacity start (cache.store q a, fetched ++ [⟨q, .ok a⟩], s') := by
  let kept := if capacity ≤ cache.size then cache.entries.tail else cache.entries
  have entries : (cache.store q a).entries = kept ++ [⟨q, a, cache.now⟩] := by
    rw [store_entries fresh absent, mirrors.limits.2]
  have sublist : kept.Sublist cache.entries := by
    simp only [kept]
    split
    · exact List.tail_sublist cache.entries
    · exact List.Sublist.refl cache.entries
  obtain ⟨age, room', clock⟩ := cache.store_limits q a
  have began : start ≤ cache.now := mirrors.began
  refine ⟨⟨age.trans mirrors.limits.1, room'.trans mirrors.limits.2⟩, ?_, ?_, ?_, ?_, ?_⟩
  · rw [clock]
    omega
  · have contents : cache.entries.map CacheEntry.fetch =
        (fetched.filter Fetch.succeeded).rtake capacity := mirrors.contents
    have shortened : kept.map CacheEntry.fetch =
        (fetched.filter Fetch.succeeded).rtake (capacity - 1) := by
      rw [rtake_pred _ room, ← contents, List.length_map]
      by_cases full : capacity ≤ cache.entries.length
      · simp only [kept, size, full, ↓reduceIte, List.map_tail]
      · simp only [kept, size, full, ↓reduceIte]
    have count : capacity = capacity - 1 + 1 := by omega
    rw [entries, List.map_append, shortened, List.filter_append, count,
      List.filter_cons_of_pos (by rfl), List.filter_nil, List.rtake_concat_succ]
    rfl
  · have keys : (cache.store q a).keys = kept.map (fun e => e.query.key) ++ [q.key] := by
      rw [MetadataCache.keys, entries, List.map_append]
      rfl
    have fewer : (kept.map fun e => e.query.key).Sublist cache.keys := sublist.map _
    rw [keys, List.nodup_append]
    refine ⟨mirrors.distinct.sublist fewer, List.pairwise_singleton _ _, ?_⟩
    rintro key among other new rfl
    rw [List.mem_singleton.mp new] at among
    exact absent (fewer.subset among)
  · rw [entries]
    refine List.pairwise_append.mpr ⟨mirrors.aging.sublist sublist, List.pairwise_singleton _ _, ?_⟩
    intro d member e new
    rw [List.mem_singleton.mp new]
    exact (mirrors.stored d (sublist.subset member)).2
  · rw [entries, clock]
    intro e member
    rcases List.mem_append.mp member with old | new
    · have age : start ≤ e.stored ∧ e.stored < cache.now := mirrors.stored e (sublist.subset old)
      omega
    · rw [List.mem_singleton.mp new]
      exact ⟨began, Nat.lt_succ_self _⟩

/-- One event keeps a cache that mirrors the fetches, provided that the time is not up. -/
theorem observe (mirrors : Mirrors maxAge capacity start state) (room : 0 < capacity)
    (inner : MetadataClient σ) (event : CacheEvent)
    (lasting : (MetadataCache.observe inner state event).1.now < start + maxAge) :
    Mirrors maxAge capacity start (MetadataCache.observe inner state event) := by
  obtain ⟨cache, fetched, s⟩ := state
  have earlier : cache.now < start + maxAge :=
    Nat.lt_of_le_of_lt (now_le_observe inner (cache, fetched, s) event) lasting
  cases event with
  | request call ticks =>
    rw [observe_request] at lasting ⊢
    by_cases cached : call.query.key ∈ cache.keys
    · obtain ⟨e, -, -, a, -, asked⟩ :=
        ask_of_mem inner ticks fetched s (mirrors.fresh earlier) cached
      rw [asked]
      exact mirrors
    · cases answered : (inner.ask call.query s).1 with
      | error fault =>
        rw [ask_of_error inner ticks fetched s cached answered]
        exact (mirrors.wait ticks).failed call.query fault _
      | ok a =>
        rw [ask_of_ok inner ticks fetched s cached answered] at lasting ⊢
        have soon : cache.now + ticks < start + maxAge := by
          rw [(store_limits _ _ _).2.2] at lasting
          exact Nat.lt_of_succ_lt lasting
        exact (mirrors.wait ticks).store room (mirrors.fresh_wait _ soon) cached a _
  | clear =>
    refine ⟨mirrors.limits, mirrors.began, ?_, List.nodup_nil, .nil, ?_⟩
    · simp [MetadataCache.observe, serve, clear]
    · simp [MetadataCache.observe, serve, clear]
  | wait ticks => exact mirrors.wait ticks

/-- Every run that ends before the time is up leaves a cache that mirrors the fetches. -/
theorem observeAll (inner : MetadataClient σ) (maxAge : Nat) {capacity : Nat} (room : 0 < capacity)
    (start : Nat) (s : σ) (events : List CacheEvent)
    (lasting : (MetadataCache.observeAll inner events
      (⟨maxAge, capacity, [], start⟩, [], s)).1.now < start + maxAge) :
    Mirrors maxAge capacity start
      (MetadataCache.observeAll inner events (⟨maxAge, capacity, [], start⟩, [], s)) := by
  induction events using List.reverseRecOn with
  | nil => exact .empty maxAge capacity start s
  | append_singleton events event ih =>
    simp only [MetadataCache.observeAll, List.foldl_append, List.foldl_cons, List.foldl_nil]
      at lasting ih ⊢
    have earlier := Nat.lt_of_le_of_lt (now_le_observe inner _ event) lasting
    exact (ih earlier).observe room inner event lasting

end Mirrors

/-- Over every run that ends before anything expires, the cache holds exactly the last fetches that
succeeded since it was cleared, oldest first, at most as many as it has room for and under distinct
keys. Whatever it is called for next, the call reaches the client exactly where its key is not held:
a key that is held is answered from its entry, and a fault of the client is returned and changes no
entry. -/
theorem observeAll_contents (inner : MetadataClient σ) (maxAge maxEntries start : Nat) (s : σ)
    (events : List CacheEvent)
    (lasting : (observeAll inner events
      (⟨maxAge, max maxEntries 1, [], start⟩, [], s)).1.now < start + maxAge) :
    let state := observeAll inner events (⟨maxAge, max maxEntries 1, [], start⟩, [], s)
    let cache := state.1
    let fetched := state.2.1
    cache.entries.map CacheEntry.fetch =
        (fetched.filter Fetch.succeeded).rtake (max maxEntries 1) ∧
      cache.keys.Nodup ∧ cache.size ≤ max maxEntries 1 ∧
      cache.entries.Pairwise (fun d e => d.stored < e.stored) ∧
      ∀ call ticks,
        let (reply, after) := (clientTaking ticks inner.recording).call call state
        let asked := inner.ask call.query state.2.2
        (call.query.key ∈ cache.keys → after = state ∧
          ∃ e ∈ cache.entries, e.query.key = call.query.key ∧
            ∃ a, e.answerFor? call.query = some a ∧ reply = call.replyOf (.ok a)) ∧
        (call.query.key ∉ cache.keys →
          after.2 = (fetched ++ [⟨call.query, asked.1⟩], asked.2) ∧
          reply = call.replyOf asked.1 ∧
          ∀ fault, asked.1 = .error fault →
            reply = .error fault ∧ after.1.entries = cache.entries) := by
  have mirrors := Mirrors.observeAll inner maxAge (Nat.le_max_right maxEntries 1) start s
    events lasting
  intro state cache fetched
  refine ⟨mirrors.contents, mirrors.distinct, mirrors.size_le, mirrors.aging, fun call ticks => ?_⟩
  rw [MetadataClient.call_eq]
  refine ⟨fun cached => ?_, fun absent => ?_⟩
  · obtain ⟨e, member, key, a, answers, asked⟩ :=
      ask_of_mem inner ticks fetched state.2.2 (mirrors.fresh lasting) cached
    exact ⟨congrArg Prod.snd asked, e, member, key, a, answers,
      congrArg (fun x => call.replyOf x.1) asked⟩
  · cases answered : (inner.ask call.query state.2.2).1 with
    | ok a =>
      have asked := ask_of_ok inner ticks fetched state.2.2 absent answered
      exact ⟨congrArg (fun x => x.2.2) asked, congrArg (fun x => call.replyOf x.1) asked, nofun⟩
    | error fault =>
      have asked := ask_of_error inner ticks fetched state.2.2 absent answered
      have reply := congrArg (fun x => call.replyOf x.1) asked
      refine ⟨congrArg (fun x => x.2.2) asked, reply, fun other same => ?_⟩
      cases same
      exact ⟨reply.trans (call.replyOf_error fault), congrArg (fun x => x.2.1.entries) asked⟩

/-- A client that fails at every third fetch, and answers each of the others with their number. -/
def fitful : MetadataClient Nat where
  ask q := fun count =>
    let reply : Except Fault q.Answer :=
      if count % 3 = 2 then .error (.answer "timeout" "no answer")
      else match q with
        | .labelNames _ | .labelValues _ _ _ => .ok [toString count]
        | .definitions => .ok []
        | .series _ _ _ => .ok []
    (reply, count + 1)

/-- Calls that fill a cache with room for two, fail, push the oldest answer out and ask for it again
in vain, with the names of metrics asked for in two ways. -/
def crowded : List CacheEvent :=
  [.request (.ask .definitions) 1, .clear, .request (.ask (.labelNames none)) 3,
    .request (.metricNames (some "1")) 2, .request (.metricNames none) 2, .wait 5,
    .request (.ask MetadataClient.metricNamesQuery) 0, .request (.ask (.series "up" none none)) 4,
    .request (.ask (.labelNames none)) 1, .request (.ask (.labelNames (some "up"))) 0]

/-- The fitful client behind the crowded cache: a run that ends before anything expires. -/
theorem observeAll_crowded :
    (observeAll fitful crowded (⟨100, 2, [], 7⟩, [], 0)).1.now < 7 + 100 ∧
      let state := observeAll fitful crowded (⟨100, 2, [], 7⟩, [], 0)
      state.1.entries.map CacheEntry.fetch =
          (state.2.1.filter Fetch.succeeded).rtake 2 ∧
        state.1.keys = [.series "up" none none, .labelNames (some "up")] := by
  have lasting : (observeAll fitful crowded (⟨100, 2, [], 7⟩, [], 0)).1.now < 7 + 100 := by decide
  exact ⟨lasting, (observeAll_contents fitful 100 2 7 0 crowded lasting).1, by decide⟩

end MetadataCache

end MetricQuery
