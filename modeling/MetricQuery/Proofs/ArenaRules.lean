import MetricQuery.Proofs.ArenaForest
import MetricQuery.Proofs.ReadingList
import MetricQuery.Syntax.Building

/-!
How work on an arena is specified. It owns the trees it has at hand, and the rest of the forest is
its frame: whatever else there is in the arena, it puts trees that stand for what a production gives
in the place of those at hand. There is a rule for each step that work is made of.
-/

set_option autoImplicit false

namespace MetricQuery

namespace Building

open MetricQuery.Parser (Part)

variable {α β γ δ : Type} {s : Stream} {hand : List Numbered}

/-- Work with some trees at hand does between two streams what a production does, and makes trees
in their place that stand for what the production gives. -/
def Builds (hand : List Numbered) (s : Stream) (x : Building α) (out : β × Stream)
    (stands : β → α → List Numbered → Prop) : Prop :=
  ∀ (a : Arena) (rest : List Numbered), a.Forest (rest ++ hand) →
    ∃ (result : α) (made : List Numbered) (b : Arena),
      x ⟨s, a⟩ = some (result, ⟨out.2, b⟩) ∧ b.Forest (rest ++ made) ∧ stands out.1 result made

/-- One tree stands for a node. -/
def One (n : Node) (id : NodeId) (made : List Numbered) : Prop :=
  ∃ t : Numbered, t.id = id ∧ made = [t] ∧ t.node = n

/-- Trees stand for nodes, one for each. -/
def All (ns : List Node) (ids : List NodeId) (made : List Numbered) : Prop :=
  made.map Numbered.id = ids ∧ made.map Numbered.node = ns

theorem one (t : Numbered) : One t.node t.id [t] := ⟨t, rfl, rfl, rfl⟩

theorem all_nil : All [] [] [] := ⟨rfl, rfl⟩

/-- A list of trees stands for nodes one by one. -/
theorem nodes_cons {t : Numbered} {ts : List Numbered} {n : Node} {ns : List Node}
    (first : t.node = n) (others : ts.map Numbered.node = ns) :
    (t :: ts).map Numbered.node = n :: ns := by
  rw [List.map_cons, first, others]

theorem nodes_append {ts us : List Numbered} {ns ms : List Node}
    (first : ts.map Numbered.node = ns) (others : us.map Numbered.node = ms) :
    (ts ++ us).map Numbered.node = ns ++ ms := by
  rw [List.map_append, first, others]

namespace Builds

variable {x : Building α} {f : α → Building γ} {middle : β × Stream} {out : δ × Stream}
  {shows : β → α → List Numbered → Prop} {stands : δ → γ → List Numbered → Prop}

theorem pure {result : γ} {d : δ} (right : stands d result hand) :
    Builds hand s (pure result) (d, s) stands :=
  fun a _ forest => ⟨result, hand, a, rfl, forest, right⟩

/-- Work on some of the trees at hand leaves the others alone. -/
theorem bind {kept used : List Numbered} (first : Builds used s x middle shows)
    (next : ∀ result made, shows middle.1 result made →
      Builds (kept ++ made) middle.2 (f result) out stands) :
    Builds (kept ++ used) s (x >>= f) out stands := by
  intro a rest forest
  rw [← List.append_assoc] at forest
  obtain ⟨result, made, b, run, after, right⟩ := first a (rest ++ kept) forest
  rw [List.append_assoc] at after
  obtain ⟨last, made', c, run', after', right'⟩ := next result made right b rest after
  refine ⟨last, made', c, ?_, after', right'⟩
  change (x ⟨s, a⟩ >>= fun p => f p.1 p.2) = _
  rw [run]
  exact run'

/-- Work on all of the trees at hand. -/
theorem seq (first : Builds hand s x middle shows)
    (next : ∀ result made, shows middle.1 result made →
      Builds made middle.2 (f result) out stands) : Builds hand s (x >>= f) out stands := by
  rw [← List.nil_append hand]
  exact bind first next

/-- Work that needs none of the trees at hand. -/
theorem also (first : Builds [] s x middle shows)
    (next : ∀ result made, shows middle.1 result made →
      Builds (hand ++ made) middle.2 (f result) out stands) :
    Builds hand s (x >>= f) out stands := by
  rw [← List.append_nil hand]
  exact bind first next

/-- Work that makes one more tree. -/
theorem addOne {x : Building NodeId} {f : NodeId → Building γ} {middle : Node × Stream}
    (first : Builds [] s x middle One)
    (next : ∀ t : Numbered, t.node = middle.1 →
      Builds (hand ++ [t]) middle.2 (f t.id) out stands) :
    Builds hand s (x >>= f) out stands := by
  refine first.also ?_
  rintro _ _ ⟨t, rfl, rfl, isNode⟩
  exact next t isNode

/-- Work that makes more trees. -/
theorem addAll {x : Building (List NodeId)} {f : List NodeId → Building γ}
    {middle : List Node × Stream} (first : Builds [] s x middle All)
    (next : ∀ ts : List Numbered, ts.map Numbered.node = middle.1 →
      Builds (hand ++ ts) middle.2 (f (ts.map Numbered.id)) out stands) :
    Builds hand s (x >>= f) out stands := by
  refine first.also ?_
  rintro _ ts ⟨rfl, areNodes⟩
  exact next ts areNodes

/-- Work that makes one tree of those at hand. -/
theorem replace {x : Building NodeId} {f : NodeId → Building γ} {middle : Node × Stream}
    (first : Builds hand s x middle One)
    (next : ∀ t : Numbered, t.node = middle.1 → Builds [t] middle.2 (f t.id) out stands) :
    Builds hand s (x >>= f) out stands := by
  refine first.seq ?_
  rintro _ _ ⟨t, rfl, rfl, isNode⟩
  exact next t isNode

theorem look {g : Stream → α} (next : Builds hand s (f (g s)) out stands) :
    Builds hand s (Building.look g >>= f) out stands := next

theorem move {g : Stream → Stream} {f : Unit → Building γ}
    (next : Builds hand (g s) (f ()) out stands) :
    Builds hand s (Building.move g >>= f) out stands := next

theorem perm {hand' : List Numbered} {x : Building γ} (same : hand.Perm hand')
    (builds : Builds hand' s x out stands) : Builds hand s x out stands :=
  fun a rest forest => builds a rest (forest.perm (same.append_left rest))

theorem imp {x : Building γ} {stands' : β → γ → List Numbered → Prop} {b : β} {d : δ}
    {after : Stream} (builds : Builds hand s x (d, after) stands)
    (weaker : ∀ result made, stands d result made → stands' b result made) :
    Builds hand s x (b, after) stands' := by
  intro a rest forest
  obtain ⟨result, made, b, run, forest', right⟩ := builds a rest forest
  exact ⟨result, made, b, run, forest', weaker result made right⟩

/-- What is stored of a tree at hand is what the tree says. -/
theorem record {t : Numbered} {f : NodeRecord → Building γ} (atHand : t ∈ hand)
    (next : Builds hand s (f (t.record none)) out stands) :
    Builds hand s (Building.record t.id >>= f) out stands := by
  intro a rest forest
  have found := (forest.stored t (List.mem_append_right rest atHand)).found
  obtain ⟨result, made, b, run, after, right⟩ := next a rest forest
  refine ⟨result, made, b, ?_, after, right⟩
  change ((a.nodes[t.id]?.bind fun r => some (r, Site.mk s a)) >>= fun p => f p.1 p.2) = _
  rw [found]
  exact run

theorem startOf {t : Numbered} {f : Nat → Building γ} (atHand : t ∈ hand)
    (next : Builds hand s (f t.node.start) out stands) :
    Builds hand s (Building.startOf t.id >>= f) out stands := by
  unfold Building.startOf
  rw [bind_assoc]
  exact record atHand next

theorem rangeOf {t : Numbered} {f : Nat × Nat → Building γ} (atHand : t ∈ hand)
    (next : Builds hand s (f (t.node.start, t.node.stop)) out stands) :
    Builds hand s (Building.rangeOf t.id >>= f) out stands := by
  unfold Building.rangeOf
  rw [bind_assoc]
  exact record atHand next

end Builds

/-- A node over all the trees at hand takes their place. -/
theorem node_builds {kind : NodeKind} {start stop : Nat} {ids : List NodeId} {ns : List Node}
    (areIds : hand.map Numbered.id = ids) (areNodes : hand.map Numbered.node = ns) :
    Builds hand s (node kind start stop ids) (.branch kind start stop ns, s) One := by
  subst areIds areNodes
  intro a rest forest
  obtain ⟨t, b, run, isNode, adds⟩ := Arena.node_adds
    (fun t member => forest.stored t (List.mem_append_right rest member)) kind start stop
  refine ⟨t.id, [t], b, ?_, adds.forest forest, t, rfl, rfl, isNode⟩
  change ((a.node kind start stop _).bind fun p => some (p, Site.mk s a)).bind _ = _
  rw [run]
  rfl

/-- It makes no difference to a node whether it is made with the range of a token or with that of
the leaf over the token. -/
theorem overToken_builds {kind : NodeKind} {start stop : Nat} {ids : List NodeId} {ns : List Node}
    (areIds : hand.map Numbered.id = ids) (areNodes : hand.map Numbered.node = ns) :
    Builds hand s (node kind start stop ids) (.branch kind start (max stop start) ns, s) One := by
  have same : Node.branch kind start (max stop start) ns = .branch kind start stop ns := by
    rw [Node.branch, Node.branch, Nat.max_eq_left (Nat.le_max_right stop start)]
  rw [same]
  exact node_builds areIds areNodes

theorem leaf_builds (kind : NodeKind) (start stop : Nat) :
    Builds [] s (leaf kind start stop) (.leaf kind start stop, s) One :=
  node_builds rfl rfl

theorem wrap_builds {t : Numbered} {n : Node} (kind : NodeKind) (isNode : t.node = n) :
    Builds [t] s (wrap kind t.id) (.wrap kind n, s) One := by
  subst isNode
  exact .rangeOf List.mem_cons_self (node_builds rfl rfl)

theorem Builds.wrapped {x : Building NodeId} {n : Node} {after : Stream} {kind : NodeKind}
    (inner : Builds hand s x (n, after) One) :
    Builds hand s (x >>= fun id => wrap kind id) (.wrap kind n, after) One :=
  .replace inner fun _ isNode => wrap_builds kind isNode

theorem Builds.single {x : Building NodeId} {middle : Node × Stream}
    (builds : Builds hand s x middle One) :
    Builds hand s (x >>= fun id => return [id]) ([middle.1], middle.2) All :=
  .replace builds fun _ isNode => .pure ⟨rfl, nodes_cons isNode rfl⟩

theorem tokenLeaf_builds (kind : NodeKind) :
    Builds [] s (tokenLeaf kind) (s.leaf kind) One :=
  .look (.move (leaf_builds kind _ _))

theorem missing_builds : Builds [] s missing (s.missing, s) One :=
  .look (leaf_builds .error _ _)

theorem errorToken_builds : Builds [] s errorToken s.stray One := by
  refine .look ?_
  unfold Stream.stray Stream.strayNode
  cases s.current.ident? with
  | none => exact tokenLeaf_builds .error
  | some name => exact (tokenLeaf_builds .identifier).wrapped

theorem swallow_builds : Builds [] s swallow s.swallow One :=
  .look (.move (.look (leaf_builds .error _ _)))

theorem errorTokens_builds (stops : Token.Kind → Bool) {steps : Nat}
    (enough : s.rest.length ≤ steps) :
    Builds [] s (errorTokens stops steps) (s.strays stops) All := by
  induction steps generalizing s with
  | zero =>
    rw [Parser.strays_nil stops (List.eq_nil_of_length_eq_zero (Nat.le_zero.mp enough))]
    exact .pure all_nil
  | succ steps ih =>
    refine .look ?_
    cases rest : s.rest with
    | nil =>
      rw [Parser.strays_nil stops rest]
      exact .pure all_nil
    | cons t later =>
      have atToken : s.kind = t.kind := by rw [Stream.kind, Stream.current_cons rest]
      simp only [List.isEmpty_cons, Bool.false_or, atToken]
      cases stopped : stops t.kind with
      | true =>
        rw [Parser.strays_stop stops rest stopped]
        exact .pure all_nil
      | false =>
        rw [Parser.strays_cons stops rest stopped]
        have shorter : s.stray.2.rest.length ≤ steps := by
          simp only [Stream.stray, Stream.rest_advance, rest, List.tail_cons]
          rw [rest, List.length_cons] at enough
          omega
        refine .replace errorToken_builds fun t isError => ?_
        refine .addAll (ih shorter) fun made areErrors => ?_
        exact .pure ⟨rfl, nodes_cons isError areErrors⟩

theorem strays_builds (stops : Token.Kind → Bool) :
    Builds [] s (strays stops) (s.strays stops) All :=
  .look (errorTokens_builds stops (Nat.le_refl _))

/-- Looking up the ranges of trees at hand. -/
theorem Builds.keyed {ts : List Numbered} {f : List (NodeId × Nat × Nat) → Building γ}
    {out : δ × Stream} {stands : δ → γ → List Numbered → Prop} (atHand : ∀ t ∈ ts, t ∈ hand)
    (next : Builds hand s (f (ts.map fun t => (t.id, t.node.start, t.node.stop))) out stands) :
    Builds hand s (((ts.map Numbered.id).mapM fun id => do
      let range ← Building.rangeOf id
      return (id, range)) >>= f) out stands := by
  induction ts generalizing f with
  | nil => exact next
  | cons t ts ih =>
    rw [List.map_cons, List.mapM_cons, bind_assoc, bind_assoc]
    refine .rangeOf (atHand t List.mem_cons_self) ?_
    simp only [pure_bind, bind_assoc]
    exact ih (fun u member => atHand u (List.mem_cons_of_mem t member)) next

/-- Siblings are put in order by the ranges that are stored of them. -/
theorem ordered_builds (ts : List Numbered) :
    Builds ts s (ordered (ts.map Numbered.id)) (Parser.ordered (ts.map Numbered.node), s) All := by
  let le (t u : Numbered) : Bool := Parser.sourceLe t.node u.node
  let key (t : Numbered) : NodeId × Nat × Nat := (t.id, t.node.start, t.node.stop)
  have byKey (t u : Numbered) : keyLe (key t) (key u) = le t u := rfl
  have bySource (t u : Numbered) : Parser.sourceLe t.node u.node = le t u := rfl
  have sorted := stableSort_perm le ts
  refine .perm sorted.symm (.keyed (fun t member => sorted.mem_iff.mpr member) (.pure ⟨?_, ?_⟩))
  · change _ = (stableSort keyLe (ts.map key)).map Prod.fst
    rw [← stableSort_map byKey, List.map_map]
    rfl
  · exact stableSort_map bySource ts

/-- An optional tree and other trees at hand become the children of a list. -/
theorem closeList_builds {l : Option Numbered} {as : List Numbered} (kind : NodeKind) (start : Nat)
    (same : hand.Perm (l.toList ++ as)) :
    Builds hand s (closeList kind start (l.map Numbered.id) (as.map Numbered.id))
      (.branch kind start s.last
        (Parser.ordered ((l.map Numbered.node).toList ++ as.map Numbered.node)), s) One := by
  have all := ordered_builds (s := s) (l.toList ++ as)
  simp only [List.map_append, ← Option.toList_map] at all
  refine .perm same (.seq all ?_)
  rintro _ made ⟨rfl, isSorted⟩
  exact .look (node_builds rfl isSorted)

/-- Parts make a list longer, item by item, and add to what does not belong to it. -/
structure Gathers (kind : NodeKind) (l : Option Numbered) (as : List Numbered) (parts : List Part)
    (l' : Option Numbered) (as' : List Numbered) : Prop where
  list : l'.map Numbered.node = (parts.filterMap Part.item?).foldl
    (fun before item => some (Parser.pushItem kind before item)) (l.map Numbered.node)
  aside : as'.map Numbered.node = as.map Numbered.node ++ parts.filterMap Part.stray?

/-- What is at hand in the end is the list and what does not belong to it. -/
def Collected (kind : NodeKind) (l : Option Numbered) (as : List Numbered) (parts : List Part)
    (ids : Option NodeId × List NodeId) (made : List Numbered) : Prop :=
  ∃ (l' : Option Numbered) (as' : List Numbered),
    ids = (l'.map Numbered.id, as'.map Numbered.id) ∧ made.Perm (l'.toList ++ as') ∧
      Gathers kind l as parts l' as'

section Collecting

variable {kind : NodeKind} {l l' : Option Numbered} {as as' : List Numbered}
  {parts more : List Part} {ids : Option NodeId × List NodeId} {made : List Numbered}

theorem Gathers.item {t : Numbered} {n : Node}
    (pushed : t.node = Parser.pushItem kind (l.map Numbered.node) n) :
    Gathers kind l as [.item n] (some t) as where
  list := congrArg some pushed
  aside := (List.append_nil _).symm

theorem Gathers.strays {ts : List Numbered} {ns : List Node}
    (areNodes : ts.map Numbered.node = ns) :
    Gathers kind l as (ns.map .stray) l (as ++ ts) where
  list := by simp [Function.comp_def, Part.item?]
  aside := by simp [Function.comp_def, Part.stray?, areNodes]

theorem Gathers.stray {t : Numbered} {n : Node} (isNode : t.node = n) :
    Gathers kind l as [.stray n] l (as ++ [t]) := by
  have single : [t].map Numbered.node = [n] := nodes_cons isNode rfl
  exact .strays single

theorem Gathers.append {l'' : Option Numbered} {as'' : List Numbered}
    (first : Gathers kind l as parts l' as') (later : Gathers kind l' as' more l'' as'') :
    Gathers kind l as (parts ++ more) l'' as'' where
  list := by rw [later.list, first.list, List.filterMap_append, List.foldl_append]
  aside := by rw [later.aside, first.aside, List.filterMap_append, List.append_assoc]

theorem Gathers.collected (gathers : Gathers kind l as parts l' as') :
    Collected kind l as parts (l'.map Numbered.id, as'.map Numbered.id) (l'.toList ++ as') :=
  ⟨l', as', rfl, .refl _, gathers⟩

theorem collected_nil (l : Option Numbered) (as : List Numbered) :
    Collected kind l as [] (l.map Numbered.id, as.map Numbered.id) (l.toList ++ as) :=
  Gathers.collected ⟨rfl, (List.append_nil _).symm⟩

theorem Collected.after (later : Collected kind l' as' more ids made)
    (first : Gathers kind l as parts l' as') : Collected kind l as (parts ++ more) ids made := by
  obtain ⟨l'', as'', isIds, same, gathers⟩ := later
  exact ⟨l'', as'', isIds, same, first.append gathers⟩

end Collecting

/-- An item goes to the end of the list. -/
theorem Builds.pushList {kind : NodeKind} {l : Option Numbered} {as : List Numbered} {t : Numbered}
    {f : NodeId → Building γ} {out : δ × Stream} {stands : δ → γ → List Numbered → Prop}
    (next : ∀ u : Numbered, u.node = Parser.pushItem kind (l.map Numbered.node) t.node →
      Builds ((some u).toList ++ as) s (f u.id) out stands) :
    Builds (l.toList ++ as ++ [t]) s
      (Building.pushList kind (l.map Numbered.id) t.id >>= f) out stands := by
  have pushed : Builds (l.toList ++ [t]) s (Building.pushList kind (l.map Numbered.id) t.id)
      (Parser.pushItem kind (l.map Numbered.node) t.node, s) One := by
    refine .rangeOf (List.mem_append_right _ List.mem_cons_self) (node_builds ?_ ?_)
    · simp [Option.toList_map]
    · simp [Option.toList_map]
  have aside : (l.toList ++ as ++ [t]).Perm (as ++ (l.toList ++ [t])) := by
    rw [← List.append_assoc]
    exact List.perm_append_comm.append_right [t]
  refine .perm aside (.bind pushed ?_)
  rintro _ _ ⟨u, rfl, rfl, isList⟩
  exact .perm List.perm_append_comm (next u isList)

/-- A bracketed list is closed over what it has collected. -/
theorem Collected.close {body list : NodeKind} {parts : List Part}
    {ids : Option NodeId × List NodeId} {made : List Numbered}
    (all : Collected list none [] parts ids made) (start : Nat) :
    Builds made s (closeList body start ids.1 ids.2)
      (.branch body start s.last (Parser.listChildren list parts), s) One := by
  obtain ⟨l, as, rfl, same, gathers⟩ := all
  refine .imp (closeList_builds body start same) fun _ _ closed => ?_
  rw [gathers.list, gathers.aside] at closed
  exact closed

end Building

end MetricQuery
