import MetricQuery.Proofs.MetricCandidates

/-!
Failed fetches stay where they are. What a context contributes to a completion depends on the
replies to its own fetches and on nothing else, so a fetch that fails costs its own context what it
would have brought and no other context anything. Every failure is reported once.
-/

set_option autoImplicit false

namespace MetricQuery

variable {σ : Type}

/-- The fault of a fetch that failed. -/
def Fetch.fault? (fetch : Fetch) : Option Fault :=
  match fetch.reply with
  | .error fault => some fault
  | .ok _ => none

namespace MetadataClient

/-- The client with some kinds of query failing. -/
def failing (client : MetadataClient σ) (fault? : MetadataQuery.Method → Option Fault) :
    MetadataClient σ where
  ask q s :=
    match fault? q.method with
    | some fault => (.error fault, s)
    | none => client.ask q s

/-- Asked one query after another, the client gives these replies. -/
def Replies (client : MetadataClient σ) : List Fetch → σ → Prop
  | [], _ => True
  | fetch :: more, s =>
    (client.ask fetch.query s).1 = fetch.reply ∧ client.Replies more (client.ask fetch.query s).2

/-- The state of a client behind some fetches. -/
abbrev afterFetches (client : MetadataClient σ) (fetches : List Fetch) (s : σ) : σ :=
  client.after (fetches.map Fetch.query) s

theorem afterFetches_append (client : MetadataClient σ) (front back : List Fetch) (s : σ) :
    client.afterFetches (front ++ back) s =
      client.afterFetches back (client.afterFetches front s) := by
  simp [after, List.foldl_append]

theorem replies_append {client : MetadataClient σ} {front back : List Fetch} {s : σ} :
    client.Replies (front ++ back) s ↔
      client.Replies front s ∧ client.Replies back (client.afterFetches front s) := by
  induction front generalizing s with
  | nil => simp [Replies, after]
  | cons fetch front ih => simp [Replies, ih, and_assoc, after]

theorem recording_replies {client : MetadataClient σ} {fetches : List Fetch} {s : σ}
    (replies : client.Replies fetches s) (fetched : List Fetch) :
    client.recording.Replies fetches (fetched, s) := by
  induction fetches generalizing s fetched with
  | nil => trivial
  | cons fetch more ih => exact ⟨replies.1, ih replies.2 _⟩

theorem recording_after {client : MetadataClient σ} {fetches : List Fetch} {s : σ}
    (replies : client.Replies fetches s) (fetched : List Fetch) :
    client.recording.afterFetches fetches (fetched, s) =
      (fetched ++ fetches, client.afterFetches fetches s) := by
  induction fetches generalizing s fetched with
  | nil => simp [after]
  | cons fetch more ih =>
    obtain ⟨first, later⟩ := replies
    have step : (client.recording.ask fetch.query (fetched, s)).2 =
        (fetched ++ [fetch], (client.ask fetch.query s).2) := by
      rw [recording_ask (Prod.ext first rfl)]
    calc client.recording.afterFetches (fetch :: more) (fetched, s)
      _ = client.recording.afterFetches more (client.recording.ask fetch.query (fetched, s)).2 :=
        rfl
      _ = client.recording.afterFetches more
          (fetched ++ [fetch], (client.ask fetch.query s).2) := by rw [step]
      _ = (fetched ++ [fetch] ++ more,
          client.afterFetches more (client.ask fetch.query s).2) := ih later _
      _ = (fetched ++ fetch :: more, client.afterFetches (fetch :: more) s) := by
        rw [List.append_assoc]
        rfl

/-- Failing queries fail, and the others are answered by the client. -/
theorem Replies.of_failing {client : MetadataClient σ}
    {fault? : MetadataQuery.Method → Option Fault} {fetches : List Fetch} {s : σ}
    (replies : (client.failing fault?).Replies fetches s) :
    ∀ fetch ∈ fetches, ∀ fault, fault? fetch.query.method = some fault →
      fetch.reply = .error fault := by
  induction fetches generalizing s with
  | nil => simp
  | cons first more ih =>
    obtain ⟨replied, later⟩ := replies
    intro fetch member fault fails
    rcases List.mem_cons.mp member with rfl | behind
    · simpa [failing, fails] using replied.symm
    · exact ih later fetch behind fault fails

namespace Stateless

variable {client : MetadataClient σ} {answer : (q : MetadataQuery) → Except Fault q.Answer} {s : σ}

theorem after (stateless : client.Stateless answer s) (asked : List MetadataQuery) :
    client.Stateless answer (client.after asked s) := by
  intro more q
  have whole := stateless (asked ++ more) q
  rwa [MetadataClient.after, List.foldl_append] at whole

/-- A client that answers each query in one way gives these answers in any order. -/
theorem replies (stateless : client.Stateless answer s) {fetches : List Fetch}
    (same : ∀ fetch ∈ fetches, answer fetch.query = fetch.reply) : client.Replies fetches s := by
  induction fetches generalizing s with
  | nil => trivial
  | cons fetch more ih =>
    obtain ⟨first, later⟩ := List.forall_mem_cons.mp same
    exact ⟨(stateless.ask fetch.query).trans first, ih (stateless.next fetch.query) later⟩

/-- A fetch that succeeds although some kinds of query fail brings what it always brings. -/
theorem answer_of_failing (stateless : client.Stateless answer s)
    {fault? : MetadataQuery.Method → Option Fault} {fetches : List Fetch}
    (replies : (client.failing fault?).Replies fetches s) :
    ∀ fetch ∈ fetches, fetch.succeeded = true → answer fetch.query = fetch.reply := by
  induction fetches generalizing s with
  | nil => simp
  | cons first more ih =>
    obtain ⟨replied, later⟩ := replies
    have step : client.Stateless answer ((client.failing fault?).ask first.query s).2 := by
      unfold failing
      dsimp only
      split
      · exact stateless
      · exact stateless.next first.query
    intro fetch member succeeded
    rcases List.mem_cons.mp member with rfl | behind
    · cases fails : fault? fetch.query.method with
      | some fault =>
        have failed : fetch.reply = .error fault := by
          simpa [failing, fails] using replied.symm
        simp [Fetch.succeeded, failed] at succeeded
      | none =>
        rw [← stateless.ask fetch.query]
        simpa [failing, fails] using replied
    · exact ih step later fetch behind succeeded

end Stateless

end MetadataClient

namespace Completion

open MetadataClient (metricNamesQuery)

/-- What is offered in contexts that need no client. -/
def termTables : List (ContextKind × List Candidate) :=
  [(.function, Candidate.functions), (.aggregation, Candidate.aggregations),
    (.binOp, Candidate.binaryOps), (.binOpModifier, Candidate.binaryModifiers),
    (.matchOp, Candidate.matchOps), (.aggregateOpModifier, Candidate.aggregateModifiers),
    (.duration, Candidate.durations), (.offset, Candidate.offsets)]

/-- What a context contributes when its fetches are these. -/
inductive Shows (limit : Nat) (ctx : Context) : List Fetch → List Candidate → Prop
  | terms {table : List Candidate} (listed : (ctx.kind, table) ∈ termTables) :
    Shows limit ctx [] table
  | labelNames {names : List String} (wanted : ctx.kind = .labelName) :
    Shows limit ctx [⟨.labelNames ctx.metric, .ok names⟩] (names.map Candidate.ofLabel)
  | noLabelNames {fault : Fault} (wanted : ctx.kind = .labelName) :
    Shows limit ctx [⟨.labelNames ctx.metric, .error fault⟩] []
  | labelValues {label : String} {values : List String} (wanted : ctx.kind = .labelValue)
    (known : ctx.label = some label) :
    Shows limit ctx [⟨.labelValues label ctx.metric ctx.matchers, .ok values⟩]
      (values.map Candidate.ofLabel)
  | noLabelValues {label : String} {fault : Fault} (wanted : ctx.kind = .labelValue)
    (known : ctx.label = some label) :
    Shows limit ctx [⟨.labelValues label ctx.metric ctx.matchers, .error fault⟩] []
  | noLabel (wanted : ctx.kind = .labelValue) (unknown : ctx.label = none) :
    Shows limit ctx [] []
  | noNames {fault : Fault} (wanted : ctx.kind = .metricName) :
    Shows limit ctx [⟨metricNamesQuery, .error fault⟩] Candidate.snippets
  | manyNames {names listed : List String} (wanted : ctx.kind = .metricName)
    (lists : Lists names (ctx.metric.getD "") listed) (many : limit < listed.length) :
    Shows limit ctx [⟨metricNamesQuery, .ok names⟩]
      (listed.map Candidate.metric ++ Candidate.snippets)
  | noDefinitions {names listed : List String} {fault : Fault} (wanted : ctx.kind = .metricName)
    (lists : Lists names (ctx.metric.getD "") listed) (few : listed.length ≤ limit) :
    Shows limit ctx [⟨metricNamesQuery, .ok names⟩, ⟨.definitions, .error fault⟩]
      (listed.map Candidate.metric ++ Candidate.snippets)
  | definitions {names listed : List String} {all : Definitions} {described : List Candidate}
    (wanted : ctx.kind = .metricName) (lists : Lists names (ctx.metric.getD "") listed)
    (few : listed.length ≤ limit) (describes : List.Forall₂ (Describes all) listed described) :
    Shows limit ctx [⟨metricNamesQuery, .ok names⟩, ⟨.definitions, .ok all⟩]
      (described ++ Candidate.snippets)

variable {limit : Nat} {ctx : Context}

theorem candidates_of_terms (client : MetadataClient σ) {table : List Candidate}
    (listed : (ctx.kind, table) ∈ termTables) (s : σ) :
    candidates (some client) limit ctx s = ⟨table, [], s⟩ := by
  simp only [termTables, List.mem_cons, Prod.mk.injEq, List.not_mem_nil, or_false] at listed
  rcases listed with ⟨same, rfl⟩ | ⟨same, rfl⟩ | ⟨same, rfl⟩ | ⟨same, rfl⟩ | ⟨same, rfl⟩ |
    ⟨same, rfl⟩ | ⟨same, rfl⟩ | ⟨same, rfl⟩ <;> simp [candidates, same, staticCandidates]

/-- A context that needs no client offers its table and fetches nothing. -/
theorem Shows.eq_of_terms {fetches : List Fetch} {options table : List Candidate}
    (shown : Shows limit ctx fetches options) (listed : (ctx.kind, table) ∈ termTables) :
    fetches = [] ∧ options = table := by
  have static : ctx.kind ≠ .metricName ∧ ctx.kind ≠ .labelName ∧ ctx.kind ≠ .labelValue := by
    refine ⟨?_, ?_, ?_⟩ <;> intro wanted <;> simp [wanted, termTables] at listed
  obtain ⟨notMetric, notName, notValue⟩ := static
  cases shown with
  | terms other =>
    have offered : candidates (some (knowing [] [])) limit ctx () = ⟨_, [], ()⟩ :=
      candidates_of_terms _ other ()
    have same := offered.symm.trans (candidates_of_terms _ listed ())
    exact ⟨rfl, congrArg Gathered.options same⟩
  | _ => contradiction

theorem labels_of_ok {fetched : Except Fault (List String) × σ} {names : List String}
    (replied : fetched.1 = .ok names) :
    labels fetched = ⟨names.map Candidate.ofLabel, [], fetched.2⟩ := by
  obtain ⟨answer, after⟩ := fetched
  obtain rfl := replied
  rfl

theorem labels_of_error {fetched : Except Fault (List String) × σ} {fault : Fault}
    (replied : fetched.1 = .error fault) : labels fetched = ⟨[], [fault], fetched.2⟩ := by
  obtain ⟨answer, after⟩ := fetched
  obtain rfl := replied
  rfl

/-- Given the replies to its fetches, a context contributes what they show, reports those that
failed, and asks for nothing else. -/
theorem Shows.candidates_eq {fetches : List Fetch} {options : List Candidate}
    (shown : Shows limit ctx fetches options) {client : MetadataClient σ} {s : σ}
    (replies : client.Replies fetches s) :
    candidates (some client) limit ctx s =
      ⟨options, fetches.filterMap Fetch.fault?, client.afterFetches fetches s⟩ := by
  cases shown with
  | terms listed => exact candidates_of_terms client listed s
  | labelNames wanted =>
    simp only [candidates, wanted]
    exact labels_of_ok replies.1
  | noLabelNames wanted =>
    simp only [candidates, wanted]
    exact labels_of_error replies.1
  | labelValues wanted known =>
    simp only [candidates, wanted, known]
    exact labels_of_ok replies.1
  | noLabelValues wanted known =>
    simp only [candidates, wanted, known]
    exact labels_of_error replies.1
  | noLabel wanted unknown => simp [candidates, wanted, unknown, MetadataClient.after]
  | noNames wanted =>
    rw [candidates_of_metricName client limit wanted,
      metricNames_of_error (Prod.ext replies.1 rfl)]
    rfl
  | manyNames wanted lists many =>
    rw [candidates_of_metricName client limit wanted,
      metricNames_of_many (Prod.ext replies.1 rfl) lists many]
    rfl
  | noDefinitions wanted lists few =>
    rw [candidates_of_metricName client limit wanted,
      metricNames_of_undescribed (Prod.ext replies.1 rfl) lists few
        (Prod.ext replies.2.1 rfl)]
    rfl
  | definitions wanted lists few describes =>
    rw [candidates_of_metricName client limit wanted,
      metricNames_of_described (Prod.ext replies.1 rfl) lists few (Prod.ext replies.2.1 rfl)
        describes]
    rfl

/-- Every context has its fetches, whatever the client replies. -/
theorem exists_shows (client : MetadataClient σ) (limit : Nat) (ctx : Context) (s : σ) :
    ∃ fetches options, Shows limit ctx fetches options ∧ client.Replies fetches s := by
  cases wanted : ctx.kind with
  | metricName =>
    cases named : (client.ask metricNamesQuery s).1 with
    | error fault => exact ⟨_, _, .noNames wanted, named, trivial⟩
    | ok names =>
      have lists := lists_distinct names (ctx.metric.getD "")
      rcases Nat.lt_or_ge limit (List.length _) with many | few
      · exact ⟨_, _, .manyNames wanted lists many, named, trivial⟩
      · cases found : (client.ask .definitions (client.ask metricNamesQuery s).2).1 with
        | error fault => exact ⟨_, _, .noDefinitions wanted lists few, named, found, trivial⟩
        | ok all =>
          exact ⟨_, _, .definitions wanted lists few (forall₂_describes_iff.mpr rfl), named, found,
            trivial⟩
  | labelName =>
    cases named : (client.ask (.labelNames ctx.metric) s).1 with
    | error fault => exact ⟨_, _, .noLabelNames wanted, named, trivial⟩
    | ok names => exact ⟨_, _, .labelNames wanted, named, trivial⟩
  | labelValue =>
    cases known : ctx.label with
    | none => exact ⟨_, _, .noLabel wanted known, trivial⟩
    | some label =>
      cases found : (client.ask (.labelValues label ctx.metric ctx.matchers) s).1 with
      | error fault => exact ⟨_, _, .noLabelValues wanted known, found, trivial⟩
      | ok values => exact ⟨_, _, .labelValues wanted known, found, trivial⟩
  | _ => exact ⟨[], _, .terms (by simp [wanted, termTables]; rfl), trivial⟩

/-- Contexts contribute one after another, each what its own fetches show. -/
theorem gather_shows (client : MetadataClient σ) (limit : Nat) (contexts : List Context)
    (fetched : List Fetch) (s : σ) :
    ∃ parts : List (List Fetch × List Candidate),
      List.Forall₂ (fun ctx part => Shows limit ctx part.1 part.2) contexts parts ∧
      client.Replies (parts.flatMap Prod.fst) s ∧
      gather (some client.recording) limit contexts (fetched, s) =
        ⟨parts.flatMap Prod.snd, (parts.flatMap Prod.fst).filterMap Fetch.fault?,
          fetched ++ parts.flatMap Prod.fst,
          client.afterFetches (parts.flatMap Prod.fst) s⟩ := by
  induction contexts generalizing fetched s with
  | nil => exact ⟨[], .nil, trivial, by simp [gather, MetadataClient.after]⟩
  | cons ctx contexts ih =>
    obtain ⟨fetches, options, shown, replies⟩ := exists_shows client limit ctx s
    obtain ⟨parts, shows, later, gathered⟩ :=
      ih (fetched ++ fetches) (client.afterFetches fetches s)
    have first := shown.candidates_eq (MetadataClient.recording_replies replies fetched)
    rw [MetadataClient.recording_after replies] at first
    refine ⟨(fetches, options) :: parts, .cons shown shows, ?_, ?_⟩
    · exact MetadataClient.replies_append.mpr ⟨replies, later⟩
    · simp only [gather, first, gathered, List.flatMap_cons, List.filterMap_append,
        List.append_assoc, MetadataClient.afterFetches_append]

/-- However the client behaves, and whichever kinds of query fail, the contexts contribute one after
another what their own fetches show, every fetch that failed is reported once, and neither the range
nor the span of the completion depends on any of it. A context contributes the same wherever its
fetches get the same replies; and where the client answers each query in one way, a context whose
fetches succeed contributes what it does when nothing is made to fail. -/
theorem assemble_isolates_failures (client : MetadataClient σ)
    (fault? : MetadataQuery.Method → Option Fault) (limit : Nat) (contexts : List Context)
    (start stop : Nat) (fetched : List Fetch) (s : σ) :
    let outcome :=
      assemble (some (client.failing fault?).recording) limit contexts start stop (fetched, s)
    ∃ parts : List (List Fetch × List Candidate),
      List.Forall₂ (fun ctx part => Shows limit ctx part.1 part.2) contexts parts ∧
      outcome.result = some ⟨start, stop, parts.flatMap Prod.snd,
        if ∃ ctx ∈ contexts, ctx.kind = .duration then none else some identifierSpan⟩ ∧
      outcome.state.1 = fetched ++ parts.flatMap Prod.fst ∧
      outcome.faults = (parts.flatMap Prod.fst).filterMap Fetch.fault? ∧
      (∀ fetch ∈ parts.flatMap Prod.fst, ∀ fault,
        fault? fetch.query.method = some fault → fetch.reply = .error fault) ∧
      List.Forall₂
        (fun ctx part => ∀ (τ : Type) (other : MetadataClient τ) (t : τ),
          other.Replies part.1 t → (candidates (some other) limit ctx t).options = part.2)
        contexts parts ∧
      ∀ answer asked, client.Stateless answer s →
        List.Forall₂
          (fun ctx part => (∀ fetch ∈ part.1, fetch.succeeded = true) →
            (candidates (some client) limit ctx (client.after asked s)).options = part.2)
          contexts parts := by
  intro outcome
  obtain ⟨parts, shows, replies, gathered⟩ :=
    gather_shows (client.failing fault?) limit contexts fetched s
  refine ⟨parts, shows, ?_, ?_, ?_, replies.of_failing, ?_, ?_⟩
  · simp [outcome, assemble, gathered]
  · simp [outcome, assemble, gathered]
  · simp [outcome, assemble, gathered]
  · exact shows.imp fun _ _ shown _ _ _ replied => by rw [shown.candidates_eq replied]
  · intro answer asked stateless
    have brought := stateless.answer_of_failing replies
    have both : List.Forall₂
        (fun part ctx => (∀ fetch ∈ part.1, fetch.succeeded = true →
          answer fetch.query = fetch.reply) ∧ Shows limit ctx part.1 part.2) parts contexts := by
      refine (List.forall₂_and_left parts contexts).mpr ⟨?_, shows.flip⟩
      intro part member fetch inside
      exact brought fetch (List.mem_flatMap.mpr ⟨part, member, inside⟩)
    refine both.flip.imp ?_
    intro ctx part known succeeded
    have same : ∀ fetch ∈ part.1, answer fetch.query = fetch.reply :=
      fun fetch inside => known.1 fetch inside (succeeded fetch inside)
    rw [known.2.candidates_eq ((stateless.after asked).replies same)]

/-- Label names that cannot be fetched cost neither the metrics nor the operators beside them. -/
theorem assemble_isolates_failures_labelNames :
    let client := knowing ["up_count", "up"] [("up", [⟨"histogram", "Up.", "s"⟩])]
    let late : Fault := .answer "timeout" "query timed out"
    let fault? (method : MetadataQuery.Method) :=
      if method = .labelNames then some late else none
    let contexts : List Context := [.ofKind .labelName, .ofKind .metricName, .ofKind .offset]
    let outcome := assemble (some (client.failing fault?).recording) 5 contexts 3 7 ([], ())
    outcome.faults = [late] ∧
      outcome.result = some ⟨3, 7,
        (candidates (some client) 5 (.ofKind .metricName) ()).options ++ Candidate.offsets,
        some identifierSpan⟩ := by
  intro client late fault? contexts outcome
  obtain ⟨parts, shows, result, noted, faults, -, -, brought⟩ :=
    assemble_isolates_failures client fault? 5 contexts 3 7 [] ()
  have fetches : parts.flatMap Prod.fst =
      [⟨.labelNames none, .error late⟩, ⟨metricNamesQuery, .ok ["up_count", "up"]⟩,
        ⟨.definitions, .ok [("up", [⟨"histogram", "Up.", "s"⟩])]⟩] := by
    rw [List.nil_append] at noted
    exact noted.symm
  have same := brought (fun q => (client.ask q ()).1) [] (fun _ _ => rfl)
  refine ⟨faults.trans (by rw [fetches]; rfl), result.trans ?_⟩
  obtain ⟨labels, _, labelsShown, rest, rfl⟩ := List.forall₂_cons_left_iff.mp shows
  obtain ⟨metrics, _, metricsShown, last, rfl⟩ := List.forall₂_cons_left_iff.mp rest
  obtain ⟨offset, _, offsetShown, nothing, rfl⟩ := List.forall₂_cons_left_iff.mp last
  obtain rfl := List.forall₂_nil_left_iff.mp nothing
  obtain ⟨-, sameRest⟩ := List.forall₂_cons.mp same
  obtain ⟨sameMetrics, -⟩ := List.forall₂_cons.mp sameRest
  -- The labels' only fetch is the one that failed, the operators have none, so the metrics have the
  -- other two.
  obtain ⟨failed, noLabels⟩ : labels.1 = [⟨.labelNames none, .error late⟩] ∧ labels.2 = [] := by
    obtain ⟨labelFetches, options⟩ := labels
    cases labelsShown with
    | noLabelNames => exact ⟨by simpa using congrArg (List.take 1) fetches, rfl⟩
    | labelNames => simp at fetches
    | terms listed => simp [termTables, Context.ofKind] at listed
    | _ => contradiction
  obtain ⟨noFetches, operators⟩ : offset.1 = [] ∧ offset.2 = Candidate.offsets :=
    offsetShown.eq_of_terms (by simp [Context.ofKind, termTables])
  have fetched : metrics.1 = [⟨metricNamesQuery, .ok ["up_count", "up"]⟩,
      ⟨.definitions, .ok [("up", [⟨"histogram", "Up.", "s"⟩])]⟩] := by
    simpa [failed, noFetches] using fetches
  have metricOptions := sameMetrics (by simp [fetched, Fetch.succeeded])
  simp [noLabels, operators, ← metricOptions, contexts, MetadataClient.after, Context.ofKind]

end Completion

end MetricQuery
