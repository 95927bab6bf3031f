import MetricQuery.Completion.Assembly
import MetricQuery.Proofs.CacheContents
import Mathlib.Data.List.Sort

/-!
Metric names as candidates. Every name that begins as asked is offered once, in the order in which
the client names them first. What is said about a name depends on what its definitions, and those of
the histograms and summaries it is a part of, say as a set: neither their order nor how often they
are repeated matters. Where there are too many names, nobody asks for definitions.
-/

set_option autoImplicit false

namespace MetricQuery

section Distinct

variable {α : Type} [BEq α] [LawfulBEq α]

theorem distinct_concat (l : List α) (a : α) :
    distinct (l ++ [a]) = if a ∈ distinct l then distinct l else distinct l ++ [a] := by
  simp [distinct, List.foldl_append]

theorem mem_distinct {l : List α} {a : α} : a ∈ distinct l ↔ a ∈ l := by
  induction l using List.reverseRecOn with
  | nil => rfl
  | append_singleton l b ih =>
    rw [distinct_concat, List.mem_append, List.mem_singleton]
    split
    · rename_i seen
      rw [ih, iff_self_or]
      rintro rfl
      exact ih.mp seen
    · rw [List.mem_append, List.mem_singleton, ih]

theorem distinct_filter (p : α → Bool) (l : List α) :
    distinct (l.filter p) = (distinct l).filter p := by
  induction l using List.reverseRecOn with
  | nil => rfl
  | append_singleton l a ih =>
    rw [List.filter_append, distinct_concat]
    by_cases holds : p a = true
    · rw [List.filter_cons_of_pos holds, List.filter_nil, distinct_concat, ih]
      by_cases seen : a ∈ distinct l
      · simp [seen, holds]
      · simp [seen, holds, List.filter_append]
    · rw [List.filter_cons_of_neg holds, List.filter_nil, List.append_nil, ih]
      split
      · rfl
      · simp [List.filter_append, holds]

/-- What is kept stands in the order of the first places. -/
theorem distinct_pairwise (l : List α) :
    (distinct l).Pairwise fun a b => l.idxOf a < l.idxOf b := by
  induction l using List.reverseRecOn with
  | nil => exact .nil
  | append_singleton l a ih =>
    have same : ∀ b ∈ distinct l, (l ++ [a]).idxOf b = l.idxOf b := by
      intro b member
      exact List.idxOf_append_of_mem (mem_distinct.mp member)
    have before : (distinct l).Pairwise fun b c => (l ++ [a]).idxOf b < (l ++ [a]).idxOf c := by
      refine ih.imp_of_mem ?_
      intro b c first second less
      rwa [same b first, same c second]
    rw [distinct_concat]
    split
    · exact before
    · rename_i new
      rw [mem_distinct] at new
      refine List.pairwise_append.mpr ⟨before, List.pairwise_singleton _ _, ?_⟩
      intro b member c last
      rw [List.mem_singleton.mp last, same b member, List.idxOf_append_of_notMem new]
      have inside := List.idxOf_lt_length_of_mem (mem_distinct.mp member)
      omega

end Distinct

namespace Definitions

/-- A definition of a metric gives it this type and this help text. -/
def Gives (all : Definitions) (metric metricType help : String) : Prop :=
  ∃ ds d, (metric, ds) ∈ all ∧ d ∈ ds ∧ d.metricType = metricType ∧ d.help = help

/-- What is said about a series, its type and a help text: by definitions of its name, and by those
of a histogram or a summary that it is a part of. -/
inductive Says (all : Definitions) (name : String) : String × String → Prop
  | own {metricType help : String} (given : all.Gives name metricType help) :
    Says all name (metricType, help)
  | bucket {metric help : String} (isPart : name = metric ++ "_bucket")
    (given : all.Gives metric "histogram" help) :
    Says all name
      ("counter", "The total count of observations for a bucket in the histogram: " ++ help)
  | count {metric metricType help : String} (isPart : name = metric ++ "_count")
    (compound : metricType = "histogram" ∨ metricType = "summary")
    (given : all.Gives metric metricType help) :
    Says all name ("counter", "The total number of observations for: " ++ help)
  | sum {metric metricType help : String} (isPart : name = metric ++ "_sum")
    (compound : metricType = "histogram" ∨ metricType = "summary")
    (given : all.Gives metric metricType help) :
    Says all name ("counter", "The total sum of observations for: " ++ help)

/-- Definitions that give the same types and help texts to the same metrics. -/
def Agree (all others : Definitions) : Prop :=
  ∀ metric metricType help, all.Gives metric metricType help ↔ others.Gives metric metricType help

theorem Says.of_agree {all others : Definitions} (agree : all.Agree others) {name : String}
    {p : String × String} (said : all.Says name p) : others.Says name p := by
  cases said with
  | own given => exact .own ((agree _ _ _).mp given)
  | bucket isPart given => exact .bucket isPart ((agree _ _ _).mp given)
  | count isPart compound given => exact .count isPart compound ((agree _ _ _).mp given)
  | sum isPart compound given => exact .sum isPart compound ((agree _ _ _).mp given)

theorem says_congr {all others : Definitions} (agree : all.Agree others) (name : String)
    (p : String × String) : all.Says name p ↔ others.Says name p :=
  ⟨.of_agree agree, .of_agree fun metric metricType help => (agree metric metricType help).symm⟩

end Definitions

theorem MetadataClient.recording_ask {σ : Type} {client : MetadataClient σ} {q : MetadataQuery}
    {reply : Except Fault q.Answer} {s s₁ : σ} (replied : client.ask q s = (reply, s₁))
    (fetched : List Fetch) :
    client.recording.ask q (fetched, s) = (reply, fetched ++ [⟨q, reply⟩], s₁) := by
  simp [recording, replied]

namespace Completion

/-- The names among `names` that begin with `start`, each once, in the order in which they come
first. -/
structure Lists (names : List String) (start : String) (listed : List String) : Prop where
  mem_iff : ∀ name, name ∈ listed ↔ name ∈ names ∧ start.toList <+: name.toList
  inOrder : listed.Pairwise fun a b => names.idxOf a < names.idxOf b

theorem lists_distinct (names : List String) (start : String) :
    Lists names start
      (distinct (names.filter fun name => start.toList.isPrefixOf name.toList)) where
  mem_iff := by
    intro name
    rw [mem_distinct, List.mem_filter, List.isPrefixOf_iff_prefix]
  inOrder := by
    rw [distinct_filter]
    exact (distinct_pairwise names).filter _

theorem Lists.unique {names : List String} {start : String} {listed others : List String}
    (left : Lists names start listed) (right : Lists names start others) : listed = others := by
  have irrefl : Std.Irrefl fun a b : String => names.idxOf a < names.idxOf b :=
    ⟨fun a => Nat.lt_irrefl (names.idxOf a)⟩
  have antisymm : Std.Antisymm fun a b : String => names.idxOf a < names.idxOf b :=
    ⟨fun a b less more => absurd less (Nat.lt_asymm more)⟩
  refine left.inOrder.eq_of_mem_iff right.inOrder ?_
  intro name
  rw [left.mem_iff, right.mem_iff]

/-- A candidate for a metric says what its definitions agree on. -/
structure Describes (all : Definitions) (name : String) (c : Candidate) : Prop where
  plain : { c with detail := none, info := none } = Candidate.metric name
  undefined : (∀ p, ¬ all.Says name p) → c.detail = none ∧ c.info = none
  agreed : ∀ metricType help, (∀ p, all.Says name p ↔ p = (metricType, help)) →
    c.detail = some metricType ∧ c.info = some help
  ambiguous : ∀ p q, all.Says name p → all.Says name q → p ≠ q →
    c.detail = some "unknown" ∧ c.info = some "multiple different definitions for this metric"

theorem mem_derivedSeries {metricType : String} {p : String × String} :
    p ∈ derivedSeries metricType ↔
      metricType = "histogram" ∧
        p = ("_bucket", "The total count of observations for a bucket in the histogram: ") ∨
      (metricType = "histogram" ∨ metricType = "summary") ∧
        (p = ("_count", "The total number of observations for: ") ∨
          p = ("_sum", "The total sum of observations for: ")) := by
  unfold derivedSeries
  split
  · simp
  · simp
  · rename_i notHistogram notSummary
    have neither : metricType ≠ "histogram" ∧ metricType ≠ "summary" := ⟨notHistogram, notSummary⟩
    simp [neither]

theorem mem_derivedDefinitions {metric name : String} {d e : Definition} :
    e ∈ derivedDefinitions metric name d ↔
      ∃ ending about, (ending, about) ∈ derivedSeries d.metricType ∧ name = metric ++ ending ∧
        e = ⟨"counter", about ++ d.help, d.unit⟩ := by
  simp only [derivedDefinitions, List.mem_filterMap, Prod.exists, beq_iff_eq,
    Option.ite_none_right_eq_some, Option.some.injEq]
  refine exists_congr fun ending => exists_congr fun about => and_congr_right fun _ => ?_
  rw [eq_comm, eq_comm (a := e)]

theorem mem_definitionsOf {all : Definitions} {name : String} {e : Definition} :
    e ∈ definitionsOf all name ↔
      ∃ metric ds, (metric, ds) ∈ all ∧
        (metric = name ∧ e ∈ ds ∨ ∃ d ∈ ds, e ∈ derivedDefinitions metric name d) := by
  simp only [definitionsOf, List.mem_flatMap, Prod.exists, List.mem_append]
  refine exists_congr fun metric => exists_congr fun ds => and_congr_right fun _ => ?_
  by_cases same : metric = name
  · simp [same]
  · simp [same]

/-- A part of a metric is among the definitions derived from the one that speaks of it. -/
theorem exists_derived {all : Definitions} {name metric metricType help ending about : String}
    (given : all.Gives metric metricType help)
    (isPart : (ending, about) ∈ derivedSeries metricType) (named : name = metric ++ ending) :
    ∃ e ∈ definitionsOf all name, (e.metricType, e.help) = ("counter", about ++ help) := by
  obtain ⟨ds, d, listed, member, rfl, rfl⟩ := given
  have found := mem_derivedDefinitions.mpr ⟨ending, about, isPart, named, rfl⟩
  exact ⟨_, mem_definitionsOf.mpr ⟨metric, ds, listed, .inr ⟨d, member, found⟩⟩, rfl⟩

/-- The definitions found for a name say what is said about it. -/
theorem mem_meanings {all : Definitions} {name : String} {p : String × String} :
    p ∈ meanings (definitionsOf all name) ↔ all.Says name p := by
  rw [meanings, mem_distinct, List.mem_map]
  constructor
  · rintro ⟨e, found, rfl⟩
    obtain ⟨metric, ds, listed, ⟨rfl, member⟩ | ⟨d, member, derived⟩⟩ := mem_definitionsOf.mp found
    · exact .own ⟨ds, e, listed, member, rfl, rfl⟩
    · obtain ⟨ending, about, isPart, named, rfl⟩ := mem_derivedDefinitions.mp derived
      rcases mem_derivedSeries.mp isPart with ⟨isHistogram, same⟩ | ⟨compound, same | same⟩
      · obtain ⟨rfl, rfl⟩ := Prod.mk.inj same
        exact .bucket named ⟨ds, d, listed, member, isHistogram, rfl⟩
      · obtain ⟨rfl, rfl⟩ := Prod.mk.inj same
        exact .count named compound ⟨ds, d, listed, member, rfl, rfl⟩
      · obtain ⟨rfl, rfl⟩ := Prod.mk.inj same
        exact .sum named compound ⟨ds, d, listed, member, rfl, rfl⟩
  · intro said
    cases said with
    | own given =>
      obtain ⟨ds, d, listed, member, rfl, rfl⟩ := given
      exact ⟨d, mem_definitionsOf.mpr ⟨name, ds, listed, .inl ⟨rfl, member⟩⟩, rfl⟩
    | bucket isPart given => exact exists_derived given (mem_derivedSeries.mpr (by simp)) isPart
    | count isPart compound given =>
      exact exists_derived given (mem_derivedSeries.mpr (.inr ⟨compound, .inl rfl⟩)) isPart
    | sum isPart compound given =>
      exact exists_derived given (mem_derivedSeries.mpr (.inr ⟨compound, .inr rfl⟩)) isPart

/-- Looking at the list of meanings is looking at the set of what is said. -/
theorem describes_decorate (all : Definitions) (name : String) :
    Describes all name (decorate all (Candidate.metric name)) := by
  have members : ∀ p, p ∈ meanings (definitionsOf all name) ↔ all.Says name p :=
    fun p => mem_meanings
  have apart : (meanings (definitionsOf all name)).Nodup :=
    (distinct_pairwise _).imp fun less same => by simp [same] at less
  have label : (Candidate.metric name).label = name := rfl
  rw [decorate, label]
  generalize meanings (definitionsOf all name) = found at members apart ⊢
  match found with
  | [] =>
    refine ⟨rfl, fun _ => ⟨rfl, rfl⟩, ?_, ?_⟩
    · intro metricType help only
      exact absurd ((members _).mpr ((only _).mpr rfl)) List.not_mem_nil
    · intro p q said _ _
      exact absurd ((members p).mpr said) List.not_mem_nil
  | [p] =>
    simp only [List.mem_singleton] at members
    refine ⟨rfl, ?_, ?_, ?_⟩
    · intro none
      exact absurd ((members p).mp rfl) (none p)
    · intro metricType help only
      have same := (only p).mp ((members p).mp rfl)
      simp [same]
    · intro q r said other different
      exact absurd (((members q).mpr said).trans ((members r).mpr other).symm) different
  | p :: q :: rest =>
    have first := (members p).mp (by simp)
    have second := (members q).mp (by simp)
    have different : p ≠ q := fun same => by simp [same] at apart
    refine ⟨rfl, ?_, ?_, fun _ _ _ _ _ => ⟨rfl, rfl⟩⟩
    · intro none
      exact absurd first (none p)
    · intro metricType help only
      exact absurd (((only p).mp first).trans ((only q).mp second).symm) different

/-- What is said about a metric determines its candidate. -/
theorem Describes.unique {all : Definitions} {name : String} {c d : Candidate}
    (left : Describes all name c) (right : Describes all name d) : c = d := by
  have same : c.detail = d.detail ∧ c.info = d.info := by
    by_cases nothing : ∀ p, ¬ all.Says name p
    · simp [left.undefined nothing, right.undefined nothing]
    · obtain ⟨p, said⟩ := not_forall_not.mp nothing
      by_cases only : ∀ q, all.Says name q → q = p
      · have single : ∀ q, all.Says name q ↔ q = (p.1, p.2) :=
          fun q => ⟨only q, fun same => same ▸ said⟩
        simp [left.agreed p.1 p.2 single, right.agreed p.1 p.2 single]
      · push Not at only
        obtain ⟨q, other, different⟩ := only
        simp [left.ambiguous q p other said different, right.ambiguous q p other said different]
  have rest := left.plain.trans right.plain.symm
  obtain ⟨label, detail, info, kind, apply⟩ := c
  obtain ⟨label', detail', info', kind', apply'⟩ := d
  simp_all

theorem describes_iff {all : Definitions} {name : String} {c : Candidate} :
    Describes all name c ↔ c = decorate all (Candidate.metric name) :=
  ⟨fun describes => describes.unique (describes_decorate all name),
    fun same => same ▸ describes_decorate all name⟩

theorem forall₂_describes_iff {all : Definitions} {listed : List String}
    {described : List Candidate} :
    List.Forall₂ (Describes all) listed described ↔
      described = (listed.map Candidate.metric).map (decorate all) := by
  induction listed generalizing described with
  | nil => simp
  | cons name listed ih => simp [List.forall₂_cons_left_iff, describes_iff, ih]

/-- Where definitions agree, candidates say the same. -/
theorem Describes.of_agree {all others : Definitions} (agree : all.Agree others) {name : String}
    {c : Candidate} (describes : Describes all name c) : Describes others name c := by
  have said : ∀ p, all.Says name p ↔ others.Says name p := Definitions.says_congr agree name
  obtain ⟨plain, undefined, agreed, ambiguous⟩ := describes
  simp only [said] at undefined agreed ambiguous
  exact ⟨plain, undefined, agreed, ambiguous⟩

open MetadataClient (metricNamesQuery namesFrom recording_ask)

section Fetched

variable {σ : Type} {client : MetadataClient σ} {limit : Nat} {start : Option String}
  {s s₁ s₂ : σ} {names listed : List String}

theorem metricNames_of_error {fault : Fault}
    (failed : client.ask metricNamesQuery s = (.error fault, s₁)) :
    metricNames client limit start s = ⟨Candidate.snippets, [fault], s₁⟩ := by
  simp [metricNames, MetadataClient.metricNames, failed, Except.map]

variable (answered : client.ask metricNamesQuery s = (.ok names, s₁))
  (lists : Lists names (start.getD "") listed)

include answered lists

theorem metricNames_of_many (many : limit < listed.length) :
    metricNames client limit start s =
      ⟨listed.map Candidate.metric ++ Candidate.snippets, [], s₁⟩ := by
  obtain rfl := lists.unique (lists_distinct names (start.getD ""))
  simp [metricNames, MetadataClient.metricNames, namesFrom, answered, Except.map,
    Nat.not_le.mpr many]

theorem metricNames_of_undescribed {fault : Fault} (few : listed.length ≤ limit)
    (failed : client.ask .definitions s₁ = (.error fault, s₂)) :
    metricNames client limit start s =
      ⟨listed.map Candidate.metric ++ Candidate.snippets, [fault], s₂⟩ := by
  obtain rfl := lists.unique (lists_distinct names (start.getD ""))
  simp [metricNames, MetadataClient.metricNames, namesFrom, answered, Except.map, few, failed]

theorem metricNames_of_described {all : Definitions} {described : List Candidate}
    (few : listed.length ≤ limit) (found : client.ask .definitions s₁ = (.ok all, s₂))
    (describes : List.Forall₂ (Describes all) listed described) :
    metricNames client limit start s = ⟨described ++ Candidate.snippets, [], s₂⟩ := by
  obtain rfl := lists.unique (lists_distinct names (start.getD ""))
  obtain rfl := forall₂_describes_iff.mp describes
  simp [metricNames, MetadataClient.metricNames, namesFrom, answered, Except.map, few, found]

end Fetched

theorem candidates_of_metricName {σ : Type} (client : MetadataClient σ) (limit : Nat)
    {ctx : Context} (wanted : ctx.kind = .metricName) (s : σ) :
    candidates (some client) limit ctx s = metricNames client limit ctx.metric s := by
  simp [candidates, wanted]

/-- Where metric names are asked for, the names that begin as asked come once each in the order of
the client, and the snippets behind them. Where there are too many of them no other query is made
and they come plain. Otherwise their definitions are fetched, and each name is described by what the
definitions say, whatever their order and however often they say it. -/
theorem candidates_metricNames {σ : Type} (client : MetadataClient σ) (limit : Nat) (ctx : Context)
    (wanted : ctx.kind = .metricName) (fetched : List Fetch) {s s₁ : σ} {names : List String}
    (answered : client.ask metricNamesQuery s = (.ok names, s₁)) :
    ∃ listed, Lists names (ctx.metric.getD "") listed ∧
      (limit < listed.length →
        candidates (some client.recording) limit ctx (fetched, s) =
          ⟨listed.map Candidate.metric ++ Candidate.snippets, [],
            fetched ++ [⟨metricNamesQuery, .ok names⟩], s₁⟩) ∧
      ∀ (all : Definitions) (s₂ : σ), listed.length ≤ limit →
        client.ask .definitions s₁ = (.ok all, s₂) →
        ∃ described, List.Forall₂ (Describes all) listed described ∧
          candidates (some client.recording) limit ctx (fetched, s) =
            ⟨described ++ Candidate.snippets, [],
              fetched ++ [⟨metricNamesQuery, .ok names⟩, ⟨.definitions, .ok all⟩], s₂⟩ ∧
          ∀ (τ : Type) (other : MetadataClient τ) (t t₁ t₂ : τ) (others : Definitions),
            other.ask metricNamesQuery t = (.ok names, t₁) →
            other.ask .definitions t₁ = (.ok others, t₂) → all.Agree others →
              (candidates (some other) limit ctx t).options = described ++ Candidate.snippets := by
  obtain ⟨listed, lists⟩ : ∃ listed, Lists names (ctx.metric.getD "") listed :=
    ⟨_, lists_distinct names (ctx.metric.getD "")⟩
  have noted := recording_ask answered fetched
  refine ⟨listed, lists, ?_, ?_⟩
  · intro many
    rw [candidates_of_metricName _ _ wanted, metricNames_of_many noted lists many]
  · intro all s₂ few found
    have describes : List.Forall₂ (Describes all) listed
        ((listed.map Candidate.metric).map (decorate all)) := forall₂_describes_iff.mpr rfl
    refine ⟨_, describes, ?_, ?_⟩
    · rw [candidates_of_metricName _ _ wanted,
        metricNames_of_described noted lists few (recording_ask found _) describes,
        List.append_assoc]
      rfl
    · intro τ other t t₁ t₂ others answered' found' agree
      rw [candidates_of_metricName _ _ wanted,
        metricNames_of_described answered' lists few found'
          (describes.imp fun _ _ => Describes.of_agree agree)]

/-- A client that knows the names of some metrics and their definitions. -/
def knowing (names : List String) (all : Definitions) : MetadataClient Unit where
  ask q s :=
    match q with
    | .labelNames _ => (.ok [], s)
    | .labelValues _ _ _ => (.ok names, s)
    | .definitions => (.ok all, s)
    | .series _ _ _ => (.ok [], s)

/-- The count of a histogram that is also defined by itself, in the same words, is no matter of
doubt; and it is none when the definitions come in another order and twice. -/
theorem candidates_metricNames_histogram :
    let names := ["up_count", "down", "up", "up_count"]
    let histogram : Definition := ⟨"histogram", "Up.", "s"⟩
    let count : Definition := ⟨"counter", "The total number of observations for: Up.", ""⟩
    let all : Definitions := [("up", [histogram]), ("up_count", [count])]
    let others : Definitions := [("up_count", [count, count]), ("up", [histogram])]
    let ctx : Context := ⟨.metricName, some "up", none, none⟩
    all.Agree others ∧ Lists names "up" ["up_count", "up"] ∧
      ∃ described, List.Forall₂ (Describes all) ["up_count", "up"] described ∧
        described.map Candidate.detail = [some "counter", some "histogram"] ∧
        (candidates (some (knowing names others)) 2 ctx ()).options =
          described ++ Candidate.snippets := by
  intro names histogram count all others ctx
  have agree : all.Agree others := by
    intro metric metricType help
    simp only [Definitions.Gives, all, others, List.mem_cons, Prod.mk.injEq, List.not_mem_nil,
      or_false]
    constructor
    · rintro ⟨ds, d, ⟨rfl, rfl⟩ | ⟨rfl, rfl⟩, member, given⟩
      · exact ⟨_, d, .inr ⟨rfl, rfl⟩, member, given⟩
      · exact ⟨_, d, .inl ⟨rfl, rfl⟩, by simpa using member, given⟩
    · rintro ⟨ds, d, ⟨rfl, rfl⟩ | ⟨rfl, rfl⟩, member, given⟩
      · exact ⟨_, d, .inr ⟨rfl, rfl⟩, by simpa using member, given⟩
      · exact ⟨_, d, .inl ⟨rfl, rfl⟩, member, given⟩
  have known : Lists names "up" ["up_count", "up"] := lists_distinct names "up"
  obtain ⟨listed, lists, -, described⟩ :=
    candidates_metricNames (knowing names all) 2 ctx rfl [] (s := ()) rfl
  obtain rfl := lists.unique known
  obtain ⟨described, describes, -, same⟩ := described all () (by decide) rfl
  refine ⟨agree, known, described, describes, ?_, ?_⟩
  · obtain rfl := forall₂_describes_iff.mp describes
    decide +kernel
  · exact same Unit (knowing names others) () () () others rfl rfl agree

end Completion

end MetricQuery
