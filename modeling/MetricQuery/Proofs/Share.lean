import MetricQuery.Proofs.Everywhere
import MetricQuery.Proofs.Place
import Mathlib.Data.List.Forall2
import Mathlib.Data.List.Perm.Basic

/-!
How tokens are shared out among the terminals of a tree. Every token that is read belongs to one
share; a share has at most one terminal, and no terminal has two shares.
-/

set_option autoImplicit false

namespace MetricQuery

namespace Cursor

/-- How many expressions stand around a place: the steps up at which one was started. -/
def nesting (c : Cursor) : Nat :=
  c.frames.countP fun f => f.parent.kind.nestsAt f.index f.parent.children.length

/-- Whether the node has no children, though not because nothing stood between its brackets. -/
def isTerminal (c : Cursor) : Bool := c.node.children.isEmpty && !c.kind.isContainer

/-- The terminals at or below a cursor, in preorder. -/
def terminals (c : Cursor) : List Cursor := c.below.filter isTerminal

theorem terminals_eq (c : Cursor) :
    c.terminals = (if c.isTerminal then [c] else []) ++ c.children.flatMap terminals := by
  have lower : (c.children.flatMap below).filter isTerminal = c.children.flatMap terminals :=
    List.filter_flatMap ..
  rw [terminals, below_eq, List.filter_cons, lower]
  split <;> rfl

theorem terminals_of_leaf {c : Cursor} {kind : NodeKind} {start stop : Nat}
    (same : c.node = .leaf kind start stop) (isLeaf : kind.isLeaf = true) : c.terminals = [c] := by
  have terminal : c.isTerminal = true := by
    simp only [isTerminal, Cursor.kind, same, Node.leaf_children, Node.leaf_kind]
    cases kind <;> first | rfl | cases isLeaf
  have childless : c.children = [] := by
    simp only [children, same, Node.leaf_children, List.zipIdx_nil, List.map_nil]
  rw [terminals_eq, if_pos terminal, childless, List.flatMap_nil, List.append_nil]

theorem terminals_of_container {c : Cursor}
    (bare : c.node.children = [] → c.kind.isContainer = true) :
    c.terminals = c.children.flatMap terminals := by
  have inner : c.isTerminal = false := by
    rw [isTerminal, Bool.and_eq_false_imp]
    intro childless
    rw [bare (List.isEmpty_iff.mp childless)]
    rfl
  rw [terminals_eq, inner]
  rfl

theorem nesting_child {c d : Cursor} {index : Nat}
    (frames : d.frames = ⟨c.node, index⟩ :: c.frames) :
    d.nesting = c.nesting + (c.kind.nestsAt index c.node.children.length).toNat := by
  rw [nesting, frames, List.countP_cons, nesting, Cursor.kind]
  cases c.node.kind.nestsAt index c.node.children.length <;> rfl

end Cursor

/-- Tokens that were read together, and the terminal that stands for them, if one does. -/
structure Share where
  tokens : List Token
  owner : Option Cursor

/-- The ways in which tokens of `input` are shared out: alone, a sign with its duration, or all
that is left where expressions nest `limit` deep. A terminal that stands for nothing is empty. -/
inductive Share.Fair (limit : Nat) (input : List Token) : Share → Prop
  | silent {t : Token} (punctuation : t.kind.isPunctuation = true) : Fair limit input ⟨[t], none⟩
  | single {t : Token} {c : Cursor} (kind : NodeKind) (same : c.node = .leaf kind t.start t.stop)
      (invalid : ∀ x, t.kind = .invalid x → kind = .error) : Fair limit input ⟨[t], some c⟩
  | signed {sign length : Token} {c : Cursor} (isSign : sign.kind = .minus)
      (isLength : Parser.isDuration length.kind = true)
      (parent : c.parentKind? = some .offsetExpr)
      (same : c.node = .leaf .duration sign.start length.stop)
      (adjacent : [sign, length] <:+: input) : Fair limit input ⟨[sign, length], some c⟩
  | run {first last : Token} {tokens : List Token} {c : Cursor} (deep : c.nesting = limit)
      (head : tokens.head? = some first) (tail : tokens.getLast? = some last)
      (same : c.node = .leaf .error first.start last.stop) (left : tokens <:+ input) :
      Fair limit input ⟨tokens, some c⟩
  | nothing {c : Cursor} (empty : c.node.start = c.node.stop) : Fair limit input ⟨[], some c⟩

theorem Share.Fair.mono {limit : Nat} {input later : List Token} {share : Share}
    (fair : share.Fair limit later) (suffix : later <:+ input) : share.Fair limit input := by
  cases fair with
  | silent punctuation => exact .silent punctuation
  | single kind same invalid => exact .single kind same invalid
  | signed isSign isLength parent same adjacent =>
    exact .signed isSign isLength parent same (adjacent.trans suffix.isInfix)
  | run deep head tail same left => exact .run deep head tail same (left.trans suffix)
  | nothing empty => exact .nothing empty

/-- The tokens before `rest` are shared out among the terminals `owners`. -/
def Shared (limit : Nat) (input : List Token) (owners : List Cursor) (rest : List Token) : Prop :=
  ∃ shares : List Share, input = shares.flatMap Share.tokens ++ rest ∧
    (shares.filterMap Share.owner).Perm owners ∧ ∀ share ∈ shares, share.Fair limit input

namespace Shared

variable {limit : Nat} {input rest : List Token}

theorem done (limit : Nat) (input : List Token) : Shared limit input [] input :=
  ⟨[], rfl, .refl _, by simp⟩

theorem one {share : Share} (fair : share.Fair limit input) (front : input = share.tokens ++ rest) :
    Shared limit input share.owner.toList rest := by
  refine ⟨[share], by simpa using front, ?_, by simpa using fair⟩
  cases found : share.owner <;> simp [found]

theorem perm {owners others : List Cursor} (shared : Shared limit input owners rest)
    (same : owners.Perm others) : Shared limit input others rest := by
  obtain ⟨shares, tokens, names, fair⟩ := shared
  exact ⟨shares, tokens, names.trans same, fair⟩

theorem append {middle : List Token} {front back : List Cursor}
    (first : Shared limit input front middle) (next : Shared limit middle back rest) :
    Shared limit input (front ++ back) rest := by
  obtain ⟨shares, tokens, names, fair⟩ := first
  obtain ⟨more, tokens', names', fair'⟩ := next
  refine ⟨shares ++ more, ?_, ?_, ?_⟩
  · rw [tokens, tokens', List.flatMap_append, List.append_assoc]
  · rw [List.filterMap_append]
    exact names.append names'
  · intro share member
    rcases List.mem_append.mp member with member | member
    · exact fair share member
    · exact (fair' share member).mono ⟨shares.flatMap Share.tokens, tokens.symm⟩

end Shared

/-- In a list of one kind, an item is as deep as every other. -/
structure NodeKind.Chains (list : NodeKind) : Prop where
  only : list.nestsAt 0 1 = list.nestsAt 1 2
  rest : list.nestsAt 0 2 = false

theorem ListRule.chains {body list item : NodeKind} (rule : ListRule body list item) :
    list.Chains := by
  cases rule <;> exact ⟨rfl, rfl⟩

namespace Parser

theorem exists_append_of_forall₂ {α β : Type} {R : α → β → Prop} {as : List α} {front back : List β}
    (each : List.Forall₂ R as (front ++ back)) :
    ∃ first next, List.Forall₂ R first front ∧ List.Forall₂ R next back ∧ as = first ++ next :=
  ⟨as.take front.length, as.drop front.length, List.forall₂_take_append _ _ _ each,
    List.forall₂_drop_append _ _ _ each, (List.take_append_drop _ as).symm⟩

theorem eq_singleton_of_forall₂ {α β : Type} {R : α → β → Prop} {as : List α} {b : β}
    (each : List.Forall₂ R as [b]) : ∃ a, as = [a] ∧ R a b := by
  obtain ⟨a, rest, first, tail, rfl⟩ := List.forall₂_cons_right_iff.mp each
  obtain rfl := List.forall₂_nil_right_iff.mp tail
  exact ⟨a, rfl, first⟩

theorem exists_of_forall₂ {α β : Type} {R : α → β → Prop} {as : List α} {bs : List β}
    (each : List.Forall₂ R as bs) {a : α} (member : a ∈ as) : ∃ b ∈ bs, R a b := by
  induction each with
  | nil => cases member
  | @cons a' b as bs related _ ih =>
    rcases List.mem_cons.mp member with rfl | later
    · exact ⟨b, by simp, related⟩
    · obtain ⟨b', inside, related'⟩ := ih later
      exact ⟨b', by simp [inside], related'⟩

/-- A cursor is on a node of a forest, at the level at which it was grown. -/
def Placed (limit : Nat) (c : Cursor) (x : Grown) : Prop :=
  c.node = x.2 ∧ c.nesting + x.1 = limit

/-- The children of a place are placed where their parent is. -/
theorem placed_children {c : Cursor} {forest : List Grown} {limit depth : Nat}
    (same : c.node.children = forest.map Prod.snd) (level : c.nesting + depth = limit)
    (levels : ∀ i x, forest[i]? = some x →
      x.1 + (c.kind.nestsAt i forest.length).toNat = depth) :
    List.Forall₂ (Placed limit) c.children forest := by
  have count : c.children.length = forest.length := by
    rw [← List.length_map, Cursor.children_map_node, same, List.length_map]
  rw [List.forall₂_iff_get]
  refine ⟨count, fun i inChildren inForest => ?_⟩
  have place : c.childAt? i = some (c.children.get ⟨i, inChildren⟩) := by
    rw [← Cursor.getElem?_children]
    exact List.getElem?_eq_getElem inChildren
  have grown : forest[i]? = some (forest.get ⟨i, inForest⟩) := List.getElem?_eq_getElem inForest
  generalize c.children.get ⟨i, inChildren⟩ = d at place
  generalize forest.get ⟨i, inForest⟩ = x at grown
  have step := levels i x grown
  rw [Cursor.childAt?, same, List.getElem?_map, grown] at place
  obtain rfl := Option.some.inj place
  refine ⟨rfl, ?_⟩
  rw [Cursor.nesting_child rfl, same, List.length_map]
  omega

/-- A list before an item is as deep as the list after it, and so are all the items. -/
theorem pushItem_places {limit depth : Nat} {list : NodeKind} (chains : list.Chains)
    {before : Option Node} {item : Node} {c : Cursor} (same : c.node = pushItem list before item)
    (level : c.nesting + (depth + (list.nestsAt 0 1).toNat) = limit) :
    List.Forall₂ (Placed limit) c.children
      (before.toList.map (Prod.mk (depth + (list.nestsAt 0 1).toNat)) ++ [(depth, item)]) := by
  have kind : c.kind = list := by rw [Cursor.kind, same]; rfl
  cases before with
  | none =>
    refine placed_children (by rw [same]; rfl) level ?_
    rintro (_ | i) x found
    · obtain rfl := Option.some.inj found
      rw [kind]
      rfl
    · cases found
  | some inner =>
    refine placed_children (by rw [same]; rfl) level ?_
    rintro (_ | _ | i) x found
    · obtain rfl := Option.some.inj found
      simp [kind, chains.rest]
    · obtain rfl := Option.some.inj found
      rw [kind]
      simp [chains.only]
    · cases found

/-- The terminals of a list are those of its items, which are all equally deep. -/
theorem chain_places {limit depth : Nat} {list : NodeKind} (chains : list.Chains)
    (items : List Node) {c : Cursor} (same : chain list items = some c.node)
    (level : c.nesting + (depth + (list.nestsAt 0 1).toNat) = limit) :
    ∃ places, List.Forall₂ (fun d item => Placed limit d (depth, item)) places items ∧
      places.flatMap Cursor.terminals = c.terminals := by
  induction items using List.reverseRecOn generalizing c with
  | nil => cases same
  | append_singleton items item ih =>
    have pushed : c.node = pushItem list (chain list items) item := by
      rw [chain_concat] at same
      exact (Option.some.inj same).symm
    have below : c.terminals = c.children.flatMap Cursor.terminals := by
      apply Cursor.terminals_of_container
      rw [pushed]
      simp [pushItem]
    obtain ⟨front, last, ofFront, ofLast, children⟩ :=
      exists_append_of_forall₂ (pushItem_places chains pushed level)
    obtain ⟨e, rfl, placed⟩ := eq_singleton_of_forall₂ ofLast
    rw [below, children, List.flatMap_append]
    cases before : chain list items with
    | none =>
      obtain rfl := chain_eq_none before
      rw [before] at ofFront
      obtain rfl := List.forall₂_nil_right_iff.mp ofFront
      exact ⟨[e], .cons placed .nil, rfl⟩
    | some inner =>
      rw [before] at ofFront
      obtain ⟨d, rfl, within⟩ := eq_singleton_of_forall₂ ofFront
      obtain ⟨places, each, terminals⟩ := ih (c := d) (by rw [before, within.1]) within.2
      refine ⟨places ++ [e], List.rel_append each (.cons placed .nil), ?_⟩
      rw [List.flatMap_append, terminals, List.flatMap_singleton, List.flatMap_singleton]

/-- Items and strays, each in their order, are the parts of a list, in another order. -/
theorem forall₂_parts {R : Cursor → Part → Prop} (parts : List Part) {items strays : List Cursor}
    (ofItems : List.Forall₂ (fun c n => R c (.item n)) items (parts.filterMap Part.item?))
    (ofStrays : List.Forall₂ (fun c n => R c (.stray n)) strays (parts.filterMap Part.stray?)) :
    ∃ places, List.Forall₂ R places parts ∧ places.Perm (items ++ strays) := by
  induction parts generalizing items strays with
  | nil =>
    obtain rfl := List.forall₂_nil_right_iff.mp ofItems
    obtain rfl := List.forall₂_nil_right_iff.mp ofStrays
    exact ⟨[], .nil, .refl _⟩
  | cons part parts ih =>
    cases part with
    | item n =>
      obtain ⟨c, items, first, rest, rfl⟩ := List.forall₂_cons_right_iff.mp ofItems
      obtain ⟨places, each, same⟩ := ih rest ofStrays
      exact ⟨c :: places, .cons first each, same.cons c⟩
    | stray n =>
      obtain ⟨c, strays, first, rest, rfl⟩ := List.forall₂_cons_right_iff.mp ofStrays
      obtain ⟨places, each, same⟩ := ih ofItems rest
      exact ⟨c :: places, .cons first each, (same.cons c).trans List.perm_middle.symm⟩

/-- The terminals of what stands between brackets are those of its parts. -/
theorem list_places {limit depth : Nat} {list : NodeKind} (chains : list.Chains)
    (parts : List Part) {c : Cursor} (flat : c.kind.isFlat = true)
    (same : c.node.children = listChildren list parts)
    (level : c.nesting + (depth + (list.nestsAt 0 1).toNat) = limit) :
    ∃ places, List.Forall₂ (Placed limit) places
        (parts.map (Part.grown depth (list.nestsAt 0 1))) ∧
      (places.flatMap Cursor.terminals).Perm (c.children.flatMap Cursor.terminals) := by
  have placed : List.Forall₂ (fun d n => Placed limit d (depth + (list.nestsAt 0 1).toNat, n))
      c.children (listChildren list parts) := by
    apply List.forall₂_map_right_iff.mp
    refine placed_children (by simp [same, Function.comp_def]) level fun i x found => ?_
    obtain ⟨n, -, rfl⟩ := Option.map_eq_some_iff.mp ((List.getElem?_map ..).symm.trans found)
    rw [NodeKind.nestsAt_of_isFlat flat]
    rfl
  obtain ⟨sorted, each, sorted_perm⟩ :=
    List.perm_comp_forall₂ (stableSort_perm sourceLe _).symm placed.flip
  obtain ⟨top, strays, ofChain, ofStrays, rfl⟩ := exists_append_of_forall₂ each.flip
  have items : ∃ items, List.Forall₂ (fun d n => Placed limit d (depth, n)) items
      (parts.filterMap Part.item?) ∧
      items.flatMap Cursor.terminals = top.flatMap Cursor.terminals := by
    cases found : chain list (parts.filterMap Part.item?) with
    | none =>
      rw [found] at ofChain
      obtain rfl := List.forall₂_nil_right_iff.mp ofChain
      rw [chain_eq_none found]
      exact ⟨[], .nil, rfl⟩
    | some n =>
      rw [found] at ofChain
      obtain ⟨e, rfl, placed⟩ := eq_singleton_of_forall₂ ofChain
      obtain ⟨items, each, same⟩ := chain_places chains _ (by rw [found, placed.1]) placed.2
      exact ⟨items, each, by rw [same]; simp⟩
  obtain ⟨items, ofItems, sameItems⟩ := items
  obtain ⟨places, ofParts, same_perm⟩ :=
    forall₂_parts (R := fun c part => Placed limit c (part.grown depth (list.nestsAt 0 1)))
      parts ofItems ofStrays
  refine ⟨places, List.forall₂_map_right_iff.mpr ofParts, ?_⟩
  have spread := same_perm.flatMap_right Cursor.terminals
  rw [List.flatMap_append, sameItems, ← List.flatMap_append] at spread
  exact spread.trans (sorted_perm.flatMap_right Cursor.terminals)

/-- A negative offset: the sign and the length behind it share one terminal. -/
theorem offsetBack_shared {limit depth : Nat} {input rest : List Token} {expr : Node}
    {keyword sign length : Token} {c : Cursor}
    (same : c.node = .branch .offsetExpr expr.start length.stop
      [expr, .leaf .keywordOffset keyword.start keyword.stop,
        .leaf .duration sign.start length.stop])
    (level : c.nesting + depth = limit) (isKeyword : keyword.isKeyword "offset" = true)
    (isSign : sign.kind = .minus) (isLength : isDuration length.kind = true)
    (operand : ∀ d, Placed limit d (depth, expr) →
      Shared limit input d.terminals (keyword :: sign :: length :: rest)) :
    Shared limit input c.terminals rest := by
  have kind : c.kind = .offsetExpr := by rw [Cursor.kind, same]; rfl
  have below : c.terminals = c.children.flatMap Cursor.terminals := by
    apply Cursor.terminals_of_container
    simp [same]
  have each : List.Forall₂ (Placed limit) c.children ([(depth, expr),
      (depth, .leaf .keywordOffset keyword.start keyword.stop)] ++
      [(depth, .leaf .duration sign.start length.stop)]) := by
    refine placed_children (by rw [same]; rfl) level fun i x found => ?_
    have grown := List.mem_of_getElem? found
    rw [kind, NodeKind.nestsAt_of_isFlat rfl]
    simp at grown
    rcases grown with rfl | rfl | rfl <;> rfl
  obtain ⟨front, last, ofFront, ofLast, children⟩ := exists_append_of_forall₂ each
  obtain ⟨d, tail, atExpr, rest', rfl⟩ := List.forall₂_cons_right_iff.mp ofFront
  obtain ⟨e, rfl, atKeyword, -⟩ := eq_singleton_of_forall₂ rest'
  obtain ⟨f, rfl, atLength, -⟩ := eq_singleton_of_forall₂ ofLast
  have up : f.parentKind? = some .offsetExpr := by
    have child : f ∈ c.children := by simp [children]
    rw [Cursor.parentKind?, Cursor.parent?_of_mem_children child, Option.map_some, kind]
  have valid : ∀ x, keyword.kind = .invalid x → NodeKind.keywordOffset = .error := by
    intro x invalid
    simp [Token.isKeyword, invalid] at isKeyword
  have keyword_shared : Shared limit (keyword :: sign :: length :: rest) [e]
      (sign :: length :: rest) := .one (.single (c := e) .keywordOffset atKeyword valid) rfl
  have length_shared : Shared limit (sign :: length :: rest) [f] rest :=
    .one (.signed (c := f) isSign isLength up atLength ⟨[], rest, rfl⟩) rfl
  have shared := ((operand d atExpr).append keyword_shared).append length_shared
  rw [below, children]
  simpa [Cursor.terminals_of_leaf atKeyword rfl, Cursor.terminals_of_leaf atLength rfl]
    using shared

/-- Whatever is read is shared out among the terminals of what it is read into. -/
theorem Reads.shared {s after : Stream} {forest : List Grown} (read : Reads s forest after)
    {limit : Nat} {places : List Cursor} (placed : List.Forall₂ (Placed limit) places forest) :
    Shared limit s.rest (places.flatMap Cursor.terminals) after.rest := by
  induction read generalizing places with
  | done =>
    obtain rfl := List.forall₂_nil_right_iff.mp placed
    exact .done _ _
  | append _ _ front back =>
    obtain ⟨first, next, ofFront, ofBack, rfl⟩ := exists_append_of_forall₂ placed
    rw [List.flatMap_append]
    exact (front ofFront).append (back ofBack)
  | @punctuation s silent =>
    obtain rfl := List.forall₂_nil_right_iff.mp placed
    obtain ⟨t, rest, next⟩ := Stream.rest_of_kind (s := s) (by
      intro finished
      rw [finished] at silent
      cases silent)
    rw [Stream.kind_of_rest next] at silent
    rw [Stream.advance_cons next, next]
    exact .one (.silent silent) rfl
  | @leaf s depth kind isLeaf more invalid =>
    obtain ⟨c, rfl, same, -⟩ := eq_singleton_of_forall₂ placed
    obtain ⟨t, rest, next⟩ := List.exists_cons_of_ne_nil more
    rw [Stream.kind_of_rest next] at invalid
    simp only [Stream.leaf, Stream.current_cons next] at same
    rw [Stream.advance_cons next, next, List.flatMap_singleton,
      Cursor.terminals_of_leaf same isLeaf]
    exact .one (.single (c := c) kind same invalid) rfl
  | missing s depth =>
    obtain ⟨c, rfl, same, -⟩ := eq_singleton_of_forall₂ placed
    rw [List.flatMap_singleton, Cursor.terminals_of_leaf same rfl]
    refine .one (.nothing (c := c) ?_) rfl
    rw [same]
    simp [Stream.missing]
  | @swallow s starts =>
    obtain ⟨c, rfl, same, level⟩ := eq_singleton_of_forall₂ placed
    obtain ⟨t, rest, next⟩ := Stream.rest_of_kind (Stream.kind_of_startsExpr starts)
    obtain ⟨last, tail⟩ := Option.isSome_iff_exists.mp
      (List.getLast?_isSome.mpr (List.cons_ne_nil t rest))
    have ends : s.rest.getLast? = some last := by rw [next, tail]
    simp only [Stream.swallow, Stream.current_cons next, ends] at same
    rw [List.flatMap_singleton, Cursor.terminals_of_leaf same rfl]
    refine .one (.run (c := c) level (by rw [next]; rfl) ends same List.suffix_rfl) ?_
    simp [Stream.swallow]
  | @branch s after forest depth start stop kind inner rule edges levels binds made ih =>
    obtain ⟨c, rfl, same, level⟩ := eq_singleton_of_forall₂ placed
    have below : c.terminals = c.children.flatMap Cursor.terminals := by
      refine Cursor.terminals_of_container fun childless => ?_
      rw [same, Node.branch_children, List.map_eq_nil_iff] at childless
      rw [childless] at rule
      rw [Cursor.kind, same]
      exact rule.isContainer_of_nil
    rw [List.flatMap_singleton, below]
    refine ih (placed_children (by rw [same]; rfl) level ?_)
    rwa [Cursor.kind, same]
  | @list s after parts depth body list inner fits known opens whole ih =>
    obtain ⟨c, rfl, same, level⟩ := eq_singleton_of_forall₂ placed
    obtain ⟨item, rule⟩ := known
    have kind : c.kind = body := by rw [Cursor.kind, same]; rfl
    have below : c.terminals = c.children.flatMap Cursor.terminals := by
      refine Cursor.terminals_of_container fun _ => ?_
      rw [kind]
      cases rule <;> rfl
    have flat : c.kind.isFlat = true := by
      rw [kind]
      cases rule <;> rfl
    obtain ⟨inside, each, spread⟩ :=
      list_places rule.chains parts flat (by rw [same]; rfl) level
    rw [List.flatMap_singleton, below]
    exact (ih each).perm spread
  | @offsetBack s middle expr depth keyword sign length rest operand isExpr next isKeyword isSign
      isLength ih =>
    obtain ⟨c, rfl, same, level⟩ := eq_singleton_of_forall₂ placed
    rw [List.flatMap_singleton]
    refine offsetBack_shared same level isKeyword isSign isLength fun d atExpr => ?_
    rw [← next]
    simpa using ih (List.Forall₂.cons atExpr .nil)

end Parser

end MetricQuery
