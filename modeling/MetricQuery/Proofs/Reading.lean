import MetricQuery.Proofs.NodeRange
import MetricQuery.Proofs.Rule

/-!
What reading does. `Reads s forest after` says that the tokens between two streams were read into
the nodes of `forest`, each token once and in the order of the input. It has one rule for each way
in which tokens are read or nodes are made, so that whatever holds of these few ways holds of every
production.
-/

set_option autoImplicit false

namespace MetricQuery

namespace Stream

theorem current_cons {s : Stream} {t : Token} {rest : List Token} (next : s.rest = t :: rest) :
    s.current = t := by
  simp only [current, next]

theorem kind_of_rest {s : Stream} {t : Token} {rest : List Token} (next : s.rest = t :: rest) :
    s.kind = t.kind := by
  rw [kind, current_cons next]

theorem kind_of_nil {s : Stream} (finished : s.rest = []) : s.kind = .endOfInput := by
  simp only [kind, current, finished, Token.finish]

theorem advance_cons {s : Stream} {t : Token} {rest : List Token} (next : s.rest = t :: rest) :
    s.advance = ⟨rest, s.finish, t.stop⟩ := by
  simp only [advance, next]

@[simp] theorem leaf_fst_kind (s : Stream) (kind : NodeKind) : (s.leaf kind).1.kind = kind := rfl

/-- A stream whose next token is anything but the end has a next token. -/
theorem rest_of_kind {s : Stream} (more : s.kind ≠ .endOfInput) :
    ∃ t rest, s.rest = t :: rest := by
  cases found : s.rest with
  | nil => exact absurd (kind_of_nil found) more
  | cons t rest => exact ⟨t, rest, rfl⟩

theorem rest_advance_lt {s : Stream} (more : s.kind ≠ .endOfInput) :
    s.advance.rest.length < s.rest.length := by
  obtain ⟨t, rest, next⟩ := rest_of_kind more
  rw [rest_advance, next]
  simp

theorem kind_of_startsExpr {s : Stream} (starts : s.startsExpr = true) :
    s.kind ≠ .endOfInput := by
  intro finished
  simp only [startsExpr, finished, Bool.false_eq_true] at starts

theorem kind_of_binaryOp? {s : Stream} {op : BinaryOp} (found : s.binaryOp? = some op) :
    s.kind ≠ .endOfInput := by
  intro finished
  simp only [binaryOp?, finished, reduceCtorEq] at found

theorem kind_of_atKeyword {s : Stream} {keyword : String} (found : s.atKeyword keyword = true) :
    ∃ name, s.kind = .ident name := by
  simp only [atKeyword, Token.isKeyword] at found
  split at found
  · rename_i name same
    exact ⟨name, same⟩
  · cases found

theorem kind_of_atGrouping {s : Stream} (found : s.atGrouping = true) :
    ∃ name, s.kind = .ident name := by
  rcases Bool.or_eq_true_iff.mp found with found | found
  · exact kind_of_atKeyword found
  · exact kind_of_atKeyword found

theorem kind_of_atStrayIdent {s : Stream} (found : s.atStrayIdent = true) :
    ∃ name, s.kind = .ident name := by
  simp only [atStrayIdent, Bool.and_eq_true, Token.ident?] at found
  have named := found.1.1.1
  split at named
  · rename_i name same
    exact ⟨name, same⟩
  · cases named

end Stream

namespace Parser

/-- A node of a forest, and how many levels below it the input is given up, if it is. -/
abbrev Grown := Nat × Node

/-- The range asked of a node over `children` starts with what was read or with a child, and ends
with what was read or with an end of a child. -/
structure Edges (s : Stream) (children : List Node) (after : Stream) (start stop : Nat) : Prop where
  start : start = s.current.start ∨ ∃ c ∈ children, start = c.start
  stop : stop = after.last ∨ ∃ c ∈ children, stop = c.start ∨ stop = c.stop

/-- A part of a list among what was read: an item is nested as deep as the list asks. -/
def Part.grown (depth : Nat) (nested : Bool) : Part → Grown
  | .item node => (depth, node)
  | .stray node => (depth + nested.toNat, node)

/-- The node of a part. -/
def Part.node : Part → Node
  | .item node | .stray node => node

@[simp] theorem Part.grown_snd (depth : Nat) (nested : Bool) (part : Part) :
    (part.grown depth nested).2 = part.node := by
  cases part <;> rfl

/-- An item of a list has the kind of its items, and everything else in it is an error. -/
def Part.Fits (body list : NodeKind) : Part → Prop
  | .item node => ListRule body list node.kind
  | .stray node => node.kind = .error

/-- Either every item of a list is there, or expressions are nested as deep as they may be and the
first of them, over all that is left, is the only item. -/
def Part.Whole (depth : Nat) (parts : List Part) : Prop :=
  (∀ n, .item n ∈ parts → n.kind ≠ .error) ∨
    depth = 0 ∧ (parts.filterMap Part.item?).length ≤ 1

/-- A list whose items are never errors is there as a whole. -/
theorem Part.Whole.of_fits {depth : Nat} {body list : NodeKind} {parts : List Part}
    (fits : ∀ part ∈ parts, part.Fits body list)
    (present : ∀ item, ListRule body list item → item ≠ .error) : Part.Whole depth parts :=
  .inl fun n member => present n.kind (fits (.item n) member)

/-- A node over all that was read for it, some bracket included, or one that needs no brackets. -/
structure Made (kind : NodeKind) (s after : Stream) (start stop : Nat) : Prop where
  single : kind.isCollection = false
  spans : kind = .parenExpr →
    start = s.current.start ∧ stop = after.last ∧ after.rest.length < s.rest.length

theorem Made.plain {kind : NodeKind} {s after : Stream} {start stop : Nat}
    (single : kind.isCollection = false) (notParen : kind ≠ .parenExpr) :
    Made kind s after start stop :=
  ⟨single, fun same => absurd same notParen⟩

/-- Reading from one stream to another gives a forest. -/
inductive Reads : Stream → List Grown → Stream → Prop
  | done {s : Stream} : Reads s [] s
  | append {s middle after : Stream} {front back : List Grown} (first : Reads s front middle)
      (next : Reads middle back after) : Reads s (front ++ back) after
  | punctuation {s : Stream} (silent : s.kind.isPunctuation = true) : Reads s [] s.advance
  | leaf {s : Stream} (depth : Nat) (kind : NodeKind) (isLeaf : kind.isLeaf = true)
      (more : s.rest ≠ []) (invalid : ∀ c, s.kind = .invalid c → kind = .error) :
      Reads s [(depth, (s.leaf kind).1)] s.advance
  | missing (s : Stream) (depth : Nat) : Reads s [(depth, s.missing)] s
  | swallow {s : Stream} (starts : s.startsExpr = true) : Reads s [(0, s.swallow.1)] s.swallow.2
  | branch {s after : Stream} {forest : List Grown} {depth start stop : Nat} {kind : NodeKind}
      (inner : Reads s forest after) (rule : Rule kind (forest.map fun x => x.2.kind))
      (edges : Edges s (forest.map Prod.snd) after start stop)
      (levels : ∀ i x, forest[i]? = some x → x.1 + (kind.nestsAt i forest.length).toNat = depth)
      (binds : (Node.branch kind start stop (forest.map Prod.snd)).Binds)
      (made : Made kind s after start stop) :
      Reads s [(depth, .branch kind start stop (forest.map Prod.snd))] after
  | list {s after : Stream} {parts : List Part} {depth : Nat} {body : NodeKind} (list : NodeKind)
      (inner : Reads s (parts.map (Part.grown depth (list.nestsAt 0 1))) after)
      (fits : ∀ part ∈ parts, part.Fits body list)
      (known : ∃ item, ListRule body list item) (opens : after.rest.length < s.rest.length)
      (whole : Part.Whole depth parts) :
      Reads s [(depth + (list.nestsAt 0 1).toNat,
        .branch body s.current.start after.last (listChildren list parts))] after
  | offsetBack {s middle : Stream} {expr : Node} {depth : Nat} {keyword sign length : Token}
      {rest : List Token} (operand : Reads s [(depth, expr)] middle) (isExpr : expr.kind = .expr)
      (next : middle.rest = keyword :: sign :: length :: rest)
      (isKeyword : keyword.isKeyword "offset" = true) (isSign : sign.kind = .minus)
      (isLength : isDuration length.kind = true) :
      Reads s [(depth, .branch .offsetExpr expr.start length.stop
          [expr, .leaf .keywordOffset keyword.start keyword.stop,
            .leaf .duration sign.start length.stop])]
        ⟨rest, middle.finish, length.stop⟩

namespace Reads

theorem trans {s middle after : Stream} {forest : List Grown} (first : Reads s [] middle)
    (next : Reads middle forest after) : Reads s forest after := first.append next

theorem then_silent {s middle after : Stream} {forest : List Grown} (first : Reads s forest middle)
    (next : Reads middle [] after) : Reads s forest after := by
  simpa only [List.append_nil] using first.append next

theorem skip (s : Stream) (kind : Token.Kind) (silent : kind.isPunctuation = true) :
    Reads s [] (s.skip kind) := by
  unfold Stream.skip
  split
  · rename_i same
    exact .punctuation (same ▸ silent)
  · exact .done

/-- A node over the children that a forest consists of. -/
theorem ofForest {s after : Stream} {forest : List Grown} {children : List Node}
    {depth start stop : Nat} (kind : NodeKind) (inner : Reads s forest after)
    (same : forest.map Prod.snd = children) (rule : Rule kind (children.map Node.kind))
    (edges : Edges s children after start stop)
    (levels : ∀ i x, forest[i]? = some x → x.1 + (kind.nestsAt i forest.length).toNat = depth)
    (binds : (Node.branch kind start stop children).Binds)
    (made : Made kind s after start stop) :
    Reads s [(depth, .branch kind start stop children)] after := by
  subst same
  refine .branch inner ?_ edges levels binds made
  rw [List.map_map] at rule
  exact rule

/-- A node of a plain kind over children of one depth. -/
theorem node {s after : Stream} {depth start stop : Nat} (kind : NodeKind) (children : List Node)
    (inner : Reads s (children.map (Prod.mk depth)) after) (plain : kind.isPlain = true)
    (rule : Rule kind (children.map Node.kind)) (edges : Edges s children after start stop) :
    Reads s [(depth, .branch kind start stop children)] after := by
  obtain ⟨flat, single⟩ := NodeKind.isPlain_iff.mp plain
  have notParen : kind ≠ .parenExpr := by
    rintro rfl
    cases flat
  refine .ofForest kind inner ?_ rule edges ?_ (Node.binds_of_isFlat flat)
    (.plain single notParen)
  · simp only [List.map_map, Function.comp_def, List.map_id_fun', id_eq]
  · intro i x found
    rw [List.getElem?_map, Option.map_eq_some_iff] at found
    obtain ⟨c, -, rfl⟩ := found
    simp only [NodeKind.nestsAt_of_isFlat flat, Bool.toNat_false, Nat.add_zero]

/-- A node the last child of which is one level deeper than the others. -/
theorem nestLast {s middle after : Stream} {n : Node} {depth start stop : Nat} (kind : NodeKind)
    (front : List Node) (last : ∀ i count, kind.nestsAt i count = (i + 1 == count))
    (first : Reads s (front.map (Prod.mk (depth + 1))) middle)
    (inner : Reads middle [(depth, n)] after) (rule : Rule kind ((front ++ [n]).map Node.kind))
    (edges : Edges s (front ++ [n]) after start stop)
    (binds : (Node.branch kind start stop (front ++ [n])).Binds)
    (single : kind.isCollection = false) :
    Reads s [(depth + 1, .branch kind start stop (front ++ [n]))] after := by
  have notParen : kind ≠ .parenExpr := by
    rintro rfl
    exact absurd (last 0 2) (by decide)
  refine .ofForest kind (first.append inner) ?_ rule edges ?_ binds (.plain single notParen)
  · simp [Function.comp_def]
  · intro i x found
    rw [last, List.length_append, List.length_map, List.length_singleton]
    rcases Nat.lt_or_ge i front.length with before | reached
    · rw [List.getElem?_append_left (by simpa using before), List.getElem?_map,
        Option.map_eq_some_iff] at found
      obtain ⟨c, -, rfl⟩ := found
      have inside : ¬ i + 1 = front.length + 1 := by omega
      simp [beq_eq_false_iff_ne.mpr inside]
    · have bound := (List.getElem?_eq_some_iff.mp found).1
      simp only [List.length_append, List.length_map, List.length_singleton] at bound
      have same : i = front.length := by omega
      subst same
      have level : x = (depth, n) := by simpa using found.symm
      rw [level, beq_self_eq_true]
      rfl

theorem wrap {s after : Stream} {n : Node} {depth : Nat} (inner : Reads s [(depth, n)] after)
    (kind : NodeKind) (plain : kind.isPlain = true) (rule : Rule kind [n.kind]) :
    Reads s [(depth, .wrap kind n)] after :=
  node kind [n] inner plain rule ⟨.inr ⟨n, by simp, rfl⟩, .inr ⟨n, by simp, .inr rfl⟩⟩

/-- What is left is a last part of what there was, and reading remembers where it stopped. -/
theorem consumed {s after : Stream} {forest : List Grown} (read : Reads s forest after) :
    ∃ ts, s.rest = ts ++ after.rest ∧ after.finish = s.finish ∧
      after.last = (ts.getLast?.map Token.stop).getD s.last := by
  induction read with
  | done => exact ⟨[], rfl, rfl, rfl⟩
  | append _ _ first next =>
    obtain ⟨ts, rest, finish, last⟩ := first
    obtain ⟨us, rest', finish', last'⟩ := next
    refine ⟨ts ++ us, by rw [rest, rest', List.append_assoc], finish'.trans finish, ?_⟩
    rw [last', last, List.getLast?_append]
    cases us.getLast? <;> rfl
  | @punctuation s silent =>
    obtain ⟨t, rest, next⟩ := Stream.rest_of_kind (s := s) (by
      intro finished
      rw [finished] at silent
      cases silent)
    exact ⟨[t], by rw [Stream.advance_cons next, next]; rfl, by rw [Stream.advance_cons next],
      by rw [Stream.advance_cons next]; rfl⟩
  | @leaf s depth kind isLeaf more invalid =>
    obtain ⟨t, rest, next⟩ := List.exists_cons_of_ne_nil more
    exact ⟨[t], by rw [Stream.advance_cons next, next]; rfl, by rw [Stream.advance_cons next],
      by rw [Stream.advance_cons next]; rfl⟩
  | missing => exact ⟨[], rfl, rfl, rfl⟩
  | @swallow s starts => exact ⟨s.rest, by simp [Stream.swallow], rfl, rfl⟩
  | branch _ _ _ _ _ _ ih => exact ih
  | list _ _ _ _ _ _ ih => exact ih
  | @offsetBack s middle expr depth keyword sign length rest operand isExpr next _ _ _ ih =>
    obtain ⟨ts, front, finish, last⟩ := ih
    refine ⟨ts ++ [keyword, sign, length], ?_, finish, ?_⟩
    · rw [front, next, List.append_assoc]
      rfl
    · simp

theorem rest_length_le {s after : Stream} {forest : List Grown} (read : Reads s forest after) :
    after.rest.length ≤ s.rest.length := by
  obtain ⟨ts, rest, -, -⟩ := read.consumed
  rw [rest, List.length_append]
  omega

/-- Reading that starts with a bracket reads something. -/
theorem rest_length_lt {s after : Stream} {forest : List Grown}
    (read : Reads s.advance forest after) (opens : s.kind.isPunctuation = true) :
    after.rest.length < s.rest.length := by
  have more : s.kind ≠ .endOfInput := by
    intro finished
    rw [finished] at opens
    cases opens
  have later := read.rest_length_le
  have bracket := Stream.rest_advance_lt more
  omega

end Reads

end Parser

end MetricQuery
