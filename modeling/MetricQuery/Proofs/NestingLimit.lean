import MetricQuery.Proofs.CountedParsing
import MetricQuery.Proofs.Share

/-!
How deep expressions nest. A step down starts a level where an expression stands inside another; the
left operand of an operator and the operand of a range or an offset stand on the level of what they
are part of. No way down a tree starts more levels than the parser counts.
-/

set_option autoImplicit false

namespace MetricQuery

mutual

/-- The most levels that a way down from a node starts. -/
def Node.levels : Node → Nat
  | .mk kind _ _ children => Node.levelsFrom kind children.length 0 children

/-- The most levels that a way down starts which leads through one of the siblings `cs`, the first
of which is at place `index` of `count` below a node of a kind. -/
def Node.levelsFrom (kind : NodeKind) (count index : Nat) : List Node → Nat
  | [] => 0
  | c :: cs =>
    max (c.levels + (kind.nestsAt index count && c.kind == .expr).toNat)
      (Node.levelsFrom kind count (index + 1) cs)

end

/-- Whether a step up leads from an expression to one that it stands inside of. -/
def Frame.startsLevel (f : Frame) : Bool :=
  f.parent.kind.nestsAt f.index f.parent.children.length &&
    f.parent.children[f.index]?.any (·.kind == .expr)

/-- How many levels the way down to a place starts. -/
def Cursor.levels (c : Cursor) : Nat := c.frames.countP Frame.startsLevel

namespace Node

variable {k : Nat} {kind : NodeKind} {start stop : Nat} {children : List Node} {n : Node}

theorem levelsFrom_le_iff {count index : Nat} {cs : List Node} :
    levelsFrom kind count index cs ≤ k ↔ ∀ i c, cs[i]? = some c →
      c.levels + (kind.nestsAt (index + i) count && c.kind == .expr).toNat ≤ k := by
  induction cs generalizing index with
  | nil => simp [levelsFrom]
  | cons c cs ih =>
    rw [levelsFrom, Nat.max_le, ih]
    constructor
    · rintro ⟨first, later⟩ i d found
      cases i with
      | zero =>
        cases found
        exact first
      | succ i =>
        rw [← Nat.add_assoc, Nat.add_right_comm]
        exact later i d found
    · intro each
      refine ⟨each 0 c rfl, fun i d found => ?_⟩
      rw [Nat.add_right_comm, Nat.add_assoc]
      exact each (i + 1) d found

theorem levels_le_iff : n.levels ≤ k ↔ ∀ i c, n.children[i]? = some c →
    c.levels + (n.kind.nestsAt i n.children.length && c.kind == .expr).toNat ≤ k := by
  cases n
  rw [levels, levelsFrom_le_iff]
  simp

@[simp] theorem levels_leaf : (leaf kind start stop).levels = 0 :=
  Nat.le_zero.mp (levels_le_iff.mpr (by simp))

theorem levels_leaf_le : (leaf kind start stop).levels ≤ k := by
  rw [levels_leaf]
  exact Nat.zero_le k

theorem levels_branch (each : ∀ i c, children[i]? = some c →
    c.levels + (kind.nestsAt i children.length && c.kind == .expr).toNat ≤ k) :
    (branch kind start stop children).levels ≤ k :=
  levels_le_iff.mpr each

theorem levels_branch_of_flat (flat : kind.isFlat = true) (each : ∀ c ∈ children, c.levels ≤ k) :
    (branch kind start stop children).levels ≤ k := by
  refine levels_branch fun i c found => ?_
  rw [NodeKind.nestsAt_of_isFlat flat]
  exact each c (List.mem_of_getElem? found)

theorem levels_wrap (flat : kind.isFlat = true) (inner : n.levels ≤ k) :
    (wrap kind n).levels ≤ k :=
  levels_branch_of_flat flat (by simpa using inner)

/-- A node that may stand inside another where `k` levels are left. -/
def Fits (k : Nat) (n : Node) : Prop := n.levels + (n.kind == .expr).toNat ≤ k

theorem Fits.levels_le (fits : n.Fits k) : n.levels ≤ k := Nat.le_trans (Nat.le_add_right _ _) fits

theorem Fits.step (fits : n.Fits k) (nests : Bool) :
    n.levels + (nests && n.kind == .expr).toNat ≤ k := by
  cases nests with
  | true => exact fits
  | false => exact fits.levels_le

theorem fits_error : (leaf .error start stop).Fits k := by
  rw [Fits, levels_leaf]
  exact Nat.zero_le _

/-- An expression takes one level more than there are inside it. -/
theorem fits_succ (inner : n.levels ≤ k) : n.Fits (k + 1) := by
  have one : (n.kind == .expr).toNat ≤ 1 := Bool.toNat_le _
  rw [Fits]
  omega

/-- A node the last child of which is the one that stands inside it. -/
theorem levels_branch_concat {last : Node}
    (nests : ∀ i count, kind.nestsAt i count = (i + 1 == count))
    (each : ∀ c ∈ children, c.levels ≤ k) (fits : last.Fits k) :
    (branch kind start stop (children ++ [last])).levels ≤ k := by
  refine levels_branch fun i c found => ?_
  rcases Nat.lt_or_ge i children.length with early | reached
  · have inside : (i + 1 == (children ++ [last]).length) = false := by simp; omega
    rw [List.getElem?_append_left early] at found
    rw [nests, inside]
    exact each c (List.mem_of_getElem? found)
  · rw [List.getElem?_append_right reached] at found
    obtain rfl := List.mem_singleton.mp (List.mem_of_getElem? found)
    exact fits.step _

end Node

namespace Cursor

theorem levels_child {c d : Cursor} {index : Nat} (found : c.node.children[index]? = some d.node)
    (frames : d.frames = ⟨c.node, index⟩ :: c.frames) :
    d.levels = c.levels +
      (c.kind.nestsAt index c.node.children.length && d.kind == .expr).toNat := by
  rw [levels, frames, List.countP_cons, levels, Frame.startsLevel, found, Option.any_some,
    Cursor.kind, Cursor.kind]
  cases c.node.kind.nestsAt index c.node.children.length && d.node.kind == .expr <;> rfl

theorem Reaches.levels_le {c d : Cursor} (way : c.Reaches d) :
    d.levels + d.node.levels ≤ c.levels + c.node.levels := by
  induction way with
  | here => exact Nat.le_refl _
  | @down d e _ child ih =>
    obtain ⟨index, found, frames⟩ := mem_children.mp child
    have below := Node.levels_le_iff.mp (Nat.le_refl d.node.levels) index e.node found
    rw [levels_child found frames, Cursor.kind, Cursor.kind]
    omega

end Cursor

namespace Parser

variable {k : Nat}

/-- A list starts no more levels than its items do where they stand. -/
theorem levels_chain {list : NodeKind} (chains : list.Chains) {items : List Node}
    (each : ∀ n ∈ items, n.levels + (list.nestsAt 0 1 && n.kind == .expr).toNat ≤ k) :
    ∀ n, chain list items = some n → n.levels ≤ k := by
  induction items using List.reverseRecOn with
  | nil => simp [chain]
  | append_singleton items last ih =>
    rintro n same
    rw [chain_concat] at same
    obtain rfl := Option.some.inj same
    have final := each last (by simp)
    cases before : chain list items with
    | none =>
      refine Node.levels_branch fun i c found => ?_
      cases i with
      | zero =>
        cases found
        exact final
      | succ i => cases found
    | some inner =>
      have earlier := ih (fun n member => each n (by simp [member])) inner before
      refine Node.levels_branch fun i c found => ?_
      rcases i with _ | _ | i
      · cases found
        simpa [chains.rest] using earlier
      · cases found
        rw [chains.only] at final
        exact final
      · cases found

/-- What stands between brackets starts no more levels than its parts. -/
theorem levels_listChildren {list : NodeKind} (chains : list.Chains) {parts : List Part}
    (items : ∀ n, .item n ∈ parts → n.levels + (list.nestsAt 0 1 && n.kind == .expr).toNat ≤ k)
    (strays : ∀ n, .stray n ∈ parts → n.levels ≤ k) :
    ∀ n ∈ listChildren list parts, n.levels ≤ k := by
  intro n member
  rcases mem_listChildren.mp member with isList | isStray
  · exact levels_chain chains (fun m inside => items m (mem_items.mp inside)) n isList
  · exact strays n isStray

theorem and_toNat_le (a b : Bool) : (a && b).toNat ≤ a.toNat := by
  cases a with
  | false => exact Nat.le_refl _
  | true => exact Bool.toNat_le _

/-- No more levels are started by what is read than the rules of reading allow. -/
theorem Reads.levels_le {s after : Stream} {forest : List Grown} (read : Reads s forest after) :
    ∀ x ∈ forest, x.2.levels ≤ x.1 := by
  induction read with
  | done => simp
  | append _ _ front back => exact List.forall_mem_append.mpr ⟨front, back⟩
  | punctuation => simp
  | leaf | missing | swallow => simp [Stream.leaf, Stream.missing, Stream.swallow]
  | @branch s after forest depth start stop kind inner rule edges levels binds made ih =>
    refine List.forall_mem_singleton.mpr (Node.levels_branch fun i c found => ?_)
    rw [List.getElem?_map, Option.map_eq_some_iff] at found
    obtain ⟨x, grown, rfl⟩ := found
    have below := ih x (List.mem_of_getElem? grown)
    have level := levels i x grown
    have step := and_toNat_le (kind.nestsAt i forest.length) (x.2.kind == .expr)
    rw [List.length_map]
    omega
  | @list s after parts depth body list inner fits known opens whole ih =>
    obtain ⟨item, rule⟩ := known
    have each : ∀ part ∈ parts, (part.grown depth (list.nestsAt 0 1)).2.levels ≤
        (part.grown depth (list.nestsAt 0 1)).1 :=
      fun part member => ih _ (List.mem_map_of_mem member)
    have flat : body.isFlat = true := by cases rule <;> rfl
    refine List.forall_mem_singleton.mpr (Node.levels_branch_of_flat flat
      (levels_listChildren rule.chains (fun n member => ?_) fun _ member => each _ member))
    have below : n.levels ≤ depth := each _ member
    have step := and_toNat_le (list.nestsAt 0 1) (n.kind == .expr)
    omega
  | @offsetBack s middle expr depth keyword sign length rest operand isExpr next _ _ _ ih =>
    refine List.forall_mem_singleton.mpr (Node.levels_branch_of_flat rfl ?_)
    have inner := ih _ List.mem_cons_self
    simp [inner]

/-- Where an expression starts, the parser of nested expressions gives one that fits. -/
def SubFits (k : Nat) (sub : Sub) : Prop :=
  ∀ least s, s.startsExpr = true → (sub least s).1.Fits k

variable {sub : Sub} {s : Stream} {e : Node}

theorem expectExpr_fits (sound : SubFits k sub) (least : Nat) (s : Stream) :
    (expectExpr sub least s).1.Fits k := by
  unfold expectExpr
  split
  · rename_i starts
    exact sound least s starts
  · exact Node.fits_error

/-- An item fits into a list, and what does not belong there starts few enough levels. -/
def Part.Within (k : Nat) : Part → Prop
  | .item n => n.Fits k
  | .stray n => n.levels ≤ k

theorem argument_within (sound : SubFits k sub) (s : Stream) : (argument sub s).1.Within k := by
  unfold argument
  split
  · rename_i starts
    exact sound 0 s starts
  · exact Node.levels_leaf_le

/-- Errors over single tokens start no level. -/
theorem strays_levels (s : Stream) (stops : Token.Kind → Bool) :
    ∀ n ∈ (s.strays stops).1, n.levels ≤ k := fun _ member =>
  Nat.le_trans ((strays_reads 0 s stops).levels_le _ (List.mem_map_of_mem member)) (Nat.zero_le k)

theorem callParts_within (sound : SubFits k sub) (steps : Nat) (s : Stream) :
    ∀ part ∈ (callParts sub steps s).1, part.Within k := by
  induction steps generalizing s with
  | zero => exact List.forall_mem_nil _
  | succ steps ih =>
    have parts : ∀ part ∈ (argument sub s).1 ::
        ((argument sub s).2.strays endsArgument).1.map Part.stray, part.Within k := by
      refine List.forall_mem_cons.mpr ⟨argument_within sound s, fun part member => ?_⟩
      obtain ⟨n, among, rfl⟩ := List.mem_map.mp member
      exact strays_levels _ _ n among
    rw [callParts]
    dsimp only
    split
    · exact List.forall_mem_append.mpr ⟨parts, ih _⟩
    · exact parts
    · exact parts

theorem callBody_levels (sound : SubFits k sub) (s : Stream) : (callBody sub s).1.levels ≤ k := by
  have parts : ∀ part ∈ (arguments sub s.advance).1, part.Within k := by
    unfold arguments
    split
    · exact List.forall_mem_nil _
    · exact callParts_within sound _ _
  refine Node.levels_branch_of_flat rfl (levels_listChildren ⟨rfl, rfl⟩ (fun n member => ?_)
    fun _ member => parts _ member)
  exact (parts (.item n) member : n.Fits k).step _

theorem functionCall_levels (sound : SubFits k sub) (name : String) (s : Stream) :
    (functionCall sub name s).1.levels ≤ k := by
  refine Node.levels_wrap rfl (Node.levels_branch_of_flat rfl ?_)
  refine List.forall_mem_cons.mpr ⟨Node.levels_wrap rfl ?_, ?_⟩
  · exact Node.levels_leaf_le
  · exact List.forall_mem_singleton.mpr (callBody_levels sound _)

theorem expectCallBody_levels (sound : SubFits k sub) (s : Stream) :
    (expectCallBody sub s).1.levels ≤ k := by
  unfold expectCallBody
  split
  · exact callBody_levels sound s
  · exact Node.fits_error.levels_le

theorem aggregate_levels (sound : SubFits k sub) (op : Aggregator) (s : Stream) :
    (aggregate sub op s).1.levels ≤ k := by
  have before := earlyGrouping_reads k (s.leaf (.aggregator op)).2
  have after := lateGrouping_reads k s.advance.atGrouping
    (expectCallBody sub (earlyGrouping s.advance).2).2
  refine Node.levels_wrap rfl (Node.levels_branch_of_flat rfl (List.forall_mem_append.mpr
    ⟨List.forall_mem_cons.mpr ⟨Node.levels_wrap rfl Node.levels_leaf_le, fun n member => ?_⟩,
      List.forall_mem_cons.mpr ⟨expectCallBody_levels sound _, fun n member => ?_⟩⟩))
  · exact before.levels_le _ (List.mem_map_of_mem member)
  · exact after.levels_le _ (List.mem_map_of_mem member)

theorem paren_levels (sound : SubFits k sub) (s : Stream) : (paren sub s).1.levels ≤ k := by
  refine Node.levels_wrap rfl (Node.levels_branch fun i c found => ?_)
  cases i with
  | zero =>
    cases found
    exact (expectExpr_fits sound 0 s.advance).step _
  | succ i => exact strays_levels _ _ c (List.mem_of_getElem? found)

theorem identExpr_levels (sound : SubFits k sub) {name : String} (found : s.kind = .ident name) :
    (identExpr sub name s).1.levels ≤ k := by
  unfold identExpr
  dsimp only
  split
  · exact aggregate_levels sound _ s
  · split
    · exact functionCall_levels sound name s
    · split
      · exact Node.levels_wrap rfl Node.levels_leaf_le
      · exact (vectorSelector_reads k found).levels_le _ List.mem_cons_self

theorem primary_levels (sound : SubFits k sub) (s : Stream) : (primary sub s).1.levels ≤ k := by
  unfold primary
  split
  · exact Node.levels_wrap rfl Node.levels_leaf_le
  · exact Node.levels_wrap rfl Node.levels_leaf_le
  · exact paren_levels sound s
  · rename_i opens
    exact Node.levels_wrap rfl (Node.levels_wrap rfl
      ((labelMatchers_reads k opens).levels_le _ List.mem_cons_self))
  · rename_i name found
    exact identExpr_levels sound found
  · exact Node.fits_error.levels_le

theorem range_levels (operand : e.levels ≤ k) (s : Stream) : (range e s).1.levels ≤ k := by
  have duration := (rangeDuration_reads k s.advance).1
  unfold range
  generalize rangeDuration s.advance = length at duration ⊢
  obtain ⟨node, after⟩ := length
  have length := duration.levels_le _ List.mem_cons_self
  have step := (rangeStep_reads k after.advance).1.levels_le
  by_cases colon : after.kind = .colon
  · simp only [colon, ↓reduceIte]
    refine Node.levels_wrap rfl (Node.levels_branch_of_flat rfl (List.forall_mem_cons.mpr
      ⟨operand, List.forall_mem_cons.mpr ⟨length, fun n member => ?_⟩⟩))
    exact step _ (List.mem_map_of_mem member)
  · simp only [colon, ↓reduceIte]
    refine Node.levels_wrap rfl (Node.levels_branch_of_flat rfl (List.forall_mem_cons.mpr
      ⟨operand, List.forall_mem_singleton.mpr length⟩))

theorem offsetDuration_levels (s : Stream) : (offsetDuration s).1.levels ≤ k := by
  cases signed : atSigned s with
  | true =>
    obtain ⟨sign, length, rest, next, isSign, isLength⟩ := rest_of_atSigned signed
    rw [offsetDuration_signed next isSign isLength]
    exact Node.levels_leaf_le
  | false => exact (offsetDuration_reads k signed).1.levels_le _ List.mem_cons_self

theorem offset_levels (operand : e.levels ≤ k) (s : Stream) : (offset e s).1.levels ≤ k :=
  Node.levels_wrap rfl (Node.levels_branch_of_flat rfl (List.forall_mem_cons.mpr ⟨operand,
    List.forall_mem_cons.mpr ⟨Node.levels_leaf_le,
      List.forall_mem_singleton.mpr (offsetDuration_levels _)⟩⟩))

theorem postfixes_levels (steps : Nat) (operand : e.levels ≤ k) (s : Stream) :
    (postfixes steps e s).1.levels ≤ k := by
  induction steps generalizing e s with
  | zero => exact operand
  | succ steps ih =>
    rw [postfixes]
    split
    · exact ih (range_levels operand s) _
    · split
      · exact ih (offset_levels operand s) _
      · exact operand

theorem unary_levels (sound : SubFits k sub) (s : Stream) : (unary sub s).1.levels ≤ k := by
  unfold unary
  split
  · have sign : ∀ c ∈ [(s.leaf .unaryOp).1], c.levels ≤ k :=
      List.forall_mem_singleton.mpr Node.levels_leaf_le
    have inner := expectExpr_fits sound BinaryOp.pow.precedence s.advance
    exact Node.levels_wrap rfl (Node.levels_branch_concat (fun _ _ => rfl) sign inner)
  · unfold operand
    dsimp only
    split
    · exact primary_levels sound s
    · exact postfixes_levels _ (primary_levels sound s) _

theorem binary_levels (sound : SubFits k sub) (op : BinaryOp) (left : e.levels ≤ k) (s : Stream) :
    (binary sub op e s).1.levels ≤ k := by
  have modifiers := (binModifiers_reads k s.advance).1.levels_le
  refine Node.levels_wrap rfl (Node.levels_branch_concat (fun _ _ => rfl) ?_
    (expectExpr_fits sound _ _))
  refine List.forall_mem_cons.mpr ⟨left, List.forall_mem_cons.mpr ⟨?_, fun n member => ?_⟩⟩
  · exact Node.levels_leaf_le
  · exact modifiers _ (List.mem_map_of_mem member)

theorem binaries_levels (sound : SubFits k sub) (least steps : Nat) (left : e.levels ≤ k)
    (s : Stream) : (binaries sub least steps e s).1.levels ≤ k := by
  induction steps generalizing e s with
  | zero => exact left
  | succ steps ih =>
    rw [binaries]
    split
    · exact left
    · split
      · exact left
      · exact ih (binary_levels sound _ left s) _

/-- Expressions that nest `depth` deep at most fit into as many levels. -/
theorem expr_fits (depth : Nat) : SubFits depth (expr depth) := by
  induction depth with
  | zero => exact fun _ _ _ => Node.fits_error
  | succ depth sound =>
    intro least s _
    -- Operators and postfixes are read in loops on one level; only the whole stands a level down.
    exact Node.fits_succ (binaries_levels sound least _ (unary_levels sound s) _)

theorem query_levels (s : Stream) (size : Nat) : (query s size).levels ≤ maxDepth := by
  have strays : ∀ n ∈ ((topExpr s).2.strays endsNothing).1, n.levels ≤ maxDepth :=
    strays_levels _ _
  have top : ∀ n ∈ (topExpr s).1, n.Fits maxDepth := by
    unfold topExpr
    split
    · rename_i starts
      exact List.forall_mem_singleton.mpr (expr_fits maxDepth 0 s starts)
    · exact List.forall_mem_nil _
  refine Node.levels_branch fun i c found => ?_
  rcases List.mem_append.mp (List.mem_of_getElem? found) with isExpr | isStray
  · exact (top c isExpr).step _
  · have isError : (c.kind == .expr) = false := by
      rw [strays_kind _ _ c isStray]
      rfl
    rw [isError, Bool.and_false]
    exact strays c isStray

end Parser

namespace SyntaxTree

/-- What the parser does with a list of tokens. -/
structure ParsesWithin (tokens : List Token) (text : Text) : Prop where
  /-- The parser with its counter gives the tree. All tokens are read and the counter is back where
  it was, every call was as it should be, and behind one that gave up nothing was read. -/
  counted : ∃ events finish,
    Counted.query (Parser.maxDepth + 1) (Text.size text)
        ⟨⟨.ofTokens tokens (Text.size text), 0⟩, []⟩ =
      some ((ofTokens tokens text).root, ⟨⟨finish, 0⟩, events⟩) ∧ finish.rest = [] ∧
    (∀ before after node, .call before after node ∈ events → Event.Called before after node) ∧
    events.Pairwise fun e later => e.GaveUp → later.Idle
  loops : Parser.LoopsProgress
  levels : ∀ c ∈ (ofTokens tokens text).cursors, c.levels ≤ 128

theorem parsesWithin (tokens : List Token) (text : Text) : ParsesWithin tokens text where
  counted := by
    obtain ⟨after, finished, events, runs, same⟩ :=
      Counted.query_does (.ofTokens tokens (Text.size text)) (Text.size text)
    refine ⟨events, after, ?_, finished, fun _ _ _ member => runs.called member, runs.gaveUp.1⟩
    exact same []
  loops := Parser.loopsProgress
  levels := by
    intro c place
    have way : (ofTokens tokens text).cursor.Reaches c := Cursor.mem_below_iff.mp place
    have below := way.levels_le
    have top : (ofTokens tokens text).cursor.levels = 0 := rfl
    have root : (ofTokens tokens text).cursor.node.levels ≤ 128 :=
      Parser.query_levels (.ofTokens tokens (Text.size text)) (Text.size text)
    omega

end SyntaxTree

end MetricQuery
