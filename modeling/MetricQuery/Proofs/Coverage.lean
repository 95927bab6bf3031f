import MetricQuery.Proofs.ReadingExpr
import MetricQuery.Proofs.Share
import MetricQuery.Proofs.TokenRange
import Mathlib.Data.List.Pairwise

/-!
No token is lost and none is read twice. What tokens are shared out as follows their order in the
text, so the terminals of a tree cover ranges apart from one another, and every token that is not
punctuation has exactly one of them to itself or among others.
-/

set_option autoImplicit false

namespace MetricQuery

namespace Token

/-- Tokens that are not empty and stand one behind another. -/
structure Apart (ts : List Token) : Prop where
  wide : ∀ t ∈ ts, t.start < t.stop
  behind : ts.Pairwise fun a b => a.stop ≤ b.start

theorem Ordered.apart {offset : Nat} {ts : List Token} (ordered : Ordered offset ts) :
    Apart ts := by
  refine ⟨fun t member => (ordered.start_le t member).2, ?_⟩
  induction ts generalizing offset with
  | nil => exact .nil
  | cons t ts ih =>
    refine .cons (fun u member => ?_) (ih ordered.2.2)
    exact (ordered.2.2.start_le u member).1

theorem Apart.sublist {ts us : List Token} (apart : Apart ts) (part : us.Sublist ts) : Apart us :=
  ⟨fun t member => apart.wide t (part.subset member), apart.behind.sublist part⟩

/-- Every token stands between the start of the first and the end of the last. -/
theorem Apart.bounds {ts : List Token} {first last : Token} (apart : Apart ts)
    (head : ts.head? = some first) (tail : ts.getLast? = some last) :
    ∀ t ∈ ts, first.start ≤ t.start ∧ t.stop ≤ last.stop := by
  intro t member
  constructor
  · obtain ⟨more, rfl⟩ := List.head?_eq_some_iff.mp head
    rcases List.mem_cons.mp member with rfl | later
    · exact Nat.le_refl _
    · have wide := apart.wide first List.mem_cons_self
      have gap := (List.pairwise_cons.mp apart.behind).1 t later
      omega
  · obtain ⟨front, rfl⟩ := List.getLast?_eq_some_iff.mp tail
    rcases List.mem_append.mp member with earlier | same
    · have wide := apart.wide last (by simp)
      have gap := (List.pairwise_append.mp apart.behind).2.2 t earlier last (by simp)
      omega
    · obtain rfl := List.mem_singleton.mp same
      exact Nat.le_refl _

end Token

namespace Node

/-- A token lies inside the range of a node. -/
def Contains (n : Node) (t : Token) : Prop := n.start ≤ t.start ∧ t.stop ≤ n.stop

/-- The ranges of two nodes, unless one of them is empty, share no byte. -/
def Apart (m n : Node) : Prop :=
  m.start < m.stop → n.start < n.stop → m.stop ≤ n.start ∨ n.stop ≤ m.start

theorem Apart.symm {m n : Node} (apart : m.Apart n) : n.Apart m := by
  intro wide wide'
  exact (apart wide' wide).symm

end Node

instance Cursor.apart_symm : Std.Symm fun c d : Cursor => c.node.Apart d.node :=
  ⟨fun _ _ => Node.Apart.symm⟩

namespace Share

variable {limit : Nat} {input : List Token} {share : Share} {c : Cursor}

/-- A leaf over tokens apart runs from the first to the last. -/
theorem leaf_range {ts : List Token} {first last : Token} {kind : NodeKind} (apart : Token.Apart ts)
    (head : ts.head? = some first) (tail : ts.getLast? = some last)
    (same : c.node = .leaf kind first.start last.stop) :
    c.node.start = first.start ∧ c.node.stop = last.stop := by
  have bounds := apart.bounds head tail first (List.mem_of_mem_head? head)
  have wide := apart.wide first (List.mem_of_mem_head? head)
  rw [same, Node.leaf_start, Node.leaf_stop]
  exact ⟨rfl, Nat.max_eq_left (by omega)⟩

/-- The terminal of a share covers exactly its tokens. -/
theorem Fair.range (fair : share.Fair limit input) (apart : Token.Apart share.tokens)
    (owns : share.owner = some c) :
    share.tokens = [] ∧ c.node.start = c.node.stop ∨
      ∃ first last, share.tokens.head? = some first ∧ share.tokens.getLast? = some last ∧
        c.node.start = first.start ∧ c.node.stop = last.stop := by
  cases fair with
  | silent => cases owns
  | single kind same =>
    cases owns
    exact .inr ⟨_, _, rfl, rfl, leaf_range apart rfl rfl same⟩
  | signed _ _ _ same =>
    cases owns
    exact .inr ⟨_, _, rfl, rfl, leaf_range apart rfl rfl same⟩
  | run _ head tail same =>
    cases owns
    exact .inr ⟨_, _, head, tail, leaf_range apart head tail same⟩
  | nothing empty =>
    cases owns
    exact .inl ⟨rfl, empty⟩

theorem Fair.contains (fair : share.Fair limit input) (apart : Token.Apart share.tokens)
    (owns : share.owner = some c) : ∀ t ∈ share.tokens, c.node.Contains t := by
  intro t member
  rcases fair.range apart owns with ⟨none, -⟩ | ⟨first, last, head, tail, start, stop⟩
  · rw [none] at member
    cases member
  · rw [Node.Contains, start, stop]
    exact apart.bounds head tail t member

/-- A token that is shared out has a terminal, unless it is punctuation. -/
theorem Fair.owned (fair : share.Fair limit input) {t : Token} (member : t ∈ share.tokens)
    (loud : t.kind.isPunctuation = false) : ∃ c, share.owner = some c := by
  cases fair with
  | silent punctuation =>
    rw [List.mem_singleton.mp member, punctuation] at loud
    cases loud
  | single | signed | run | nothing => exact ⟨_, rfl⟩

/-- The terminal of a token that is none of the language is an error. -/
theorem Fair.error_of_invalid (fair : share.Fair limit input) {t : Token} {x : Char}
    (member : t ∈ share.tokens) (invalid : t.kind = .invalid x) (owns : share.owner = some c) :
    c.kind = .error := by
  cases fair with
  | silent => cases owns
  | single kind same error =>
    cases owns
    rw [List.mem_singleton.mp member] at invalid
    rw [Cursor.kind, same]
    exact error x invalid
  | signed isSign isLength =>
    simp only [List.mem_cons, List.not_mem_nil, or_false] at member
    rcases member with rfl | rfl
    · rw [isSign] at invalid
      cases invalid
    · rw [invalid] at isLength
      cases isLength
  | run _ _ _ same =>
    cases owns
    rw [Cursor.kind, same]
    rfl
  | nothing => cases member

/-- Shares of tokens that stand one behind another have terminals apart. -/
theorem owners_disjoint {shares : List Share} (fair : ∀ share ∈ shares, share.Fair limit input)
    (apart : Token.Apart (shares.flatMap tokens)) :
    (shares.filterMap owner).Pairwise fun c d => c.node.Apart d.node := by
  induction shares with
  | nil => exact .nil
  | cons share shares ih =>
    rw [List.flatMap_cons] at apart
    have later := ih (fun other member => fair other (List.mem_cons_of_mem _ member))
      (apart.sublist (List.sublist_append_right _ _))
    cases owns : share.owner with
    | none => rwa [List.filterMap_cons_none owns]
    | some c =>
      rw [List.filterMap_cons_some owns]
      refine .cons (fun d member wide wide' => ?_) later
      obtain ⟨other, inside, owns'⟩ := List.mem_filterMap.mp member
      have others : other.tokens.Sublist (shares.flatMap tokens) :=
        List.sublist_flatten_of_mem (List.mem_map_of_mem inside)
      have ranges := (fair share List.mem_cons_self).range
        (apart.sublist (List.sublist_append_left _ _)) owns
      have ranges' := (fair other (List.mem_cons_of_mem _ inside)).range
        (apart.sublist (others.trans (List.sublist_append_right _ _))) owns'
      rcases ranges with ⟨-, empty⟩ | ⟨_, last, -, tail, -, stop⟩
      · omega
      rcases ranges' with ⟨-, empty⟩ | ⟨first, _, head, -, start, -⟩
      · omega
      left
      rw [stop, start]
      exact (List.pairwise_append.mp apart.behind).2.2 last (List.mem_of_getLast? tail) first
        (others.subset (List.mem_of_mem_head? head))

end Share

/-- What a terminal that is not empty stands for, among the tokens of its text. -/
inductive Cursor.StandsFor (c : Cursor) (tokens : List Token) : Prop
  | token {t : Token} (member : t ∈ tokens) (start : c.node.start = t.start)
      (stop : c.node.stop = t.stop)
  | signedDuration {sign length : Token} (kind : c.kind = .duration)
      (parent : c.parentKind? = some .offsetExpr) (isSign : sign.kind = .minus)
      (isLength : Parser.isDuration length.kind = true)
      (adjacent : [sign, length] <:+: tokens) (start : c.node.start = sign.start)
      (stop : c.node.stop = length.stop)
  | givenUp {run : List Token} {first last finish : Token} (kind : c.kind = .error)
      (deep : c.nesting = Parser.maxDepth + 1) (left : run ++ [finish] <:+ tokens)
      (ends : finish.kind = .endOfInput) (head : run.head? = some first)
      (tail : run.getLast? = some last) (start : c.node.start = first.start)
      (stop : c.node.stop = last.stop)

theorem Share.Fair.standsFor {ts : List Token} {size : Nat} {share : Share} {c : Cursor}
    (fair : share.Fair (Parser.maxDepth + 1) ts) (apart : Token.Apart share.tokens)
    (inside : share.tokens ⊆ ts) (owns : share.owner = some c)
    (nonempty : c.node.start < c.node.stop) : c.StandsFor (ts ++ [Token.finish size]) := by
  cases fair with
  | silent => cases owns
  | @single t _ kind same =>
    cases owns
    obtain ⟨start, stop⟩ := leaf_range apart rfl rfl same
    have member : t ∈ ts := inside (by simp)
    exact .token (List.mem_append_left _ member) start stop
  | signed isSign isLength parent same adjacent =>
    cases owns
    obtain ⟨start, stop⟩ := leaf_range apart rfl rfl same
    have kind : c.kind = .duration := by rw [Cursor.kind, same]; rfl
    exact .signedDuration kind parent isSign isLength
      (adjacent.trans (List.prefix_append ts _).isInfix) start stop
  | run deep head tail same left =>
    cases owns
    obtain ⟨start, stop⟩ := leaf_range apart head tail same
    have kind : c.kind = .error := by rw [Cursor.kind, same]; rfl
    exact .givenUp kind deep (List.suffix_append_self_iff.mpr left) rfl head tail start stop
  | nothing empty =>
    cases owns
    omega

namespace SyntaxTree

/-- The terminals of the tree. -/
def terminals (t : SyntaxTree) : List Cursor := t.cursors.filter Cursor.isTerminal

/-- The tokens of a text and the terminals of its tree account for one another. -/
structure Accounts (t : SyntaxTree) (tokens : List Token) : Prop where
  disjoint : t.terminals.Pairwise fun c d => c.node.Apart d.node
  stands : ∀ c ∈ t.terminals, c.node.start < c.node.stop → c.StandsFor tokens
  once : ∀ token ∈ tokens, token.kind ≠ .endOfInput → token.kind.isPunctuation = false →
    ∃! c, c ∈ t.terminals ∧ c.node.Contains token
  invalid : ∀ token ∈ tokens, ∀ x, token.kind = .invalid x →
    ∃ n ∈ t.nodes, n.kind = .error ∧ n.Contains token

theorem mem_of_inner {ts : List Token} {size : Nat} {token : Token}
    (member : token ∈ ts ++ [Token.finish size]) (inner : token.kind ≠ .endOfInput) :
    token ∈ ts := by
  rcases List.mem_append.mp member with inside | last
  · exact inside
  · rw [List.mem_singleton.mp last] at inner
    exact absurd rfl inner

/-- Tokens that are shared out among all the terminals of a tree are accounted for. -/
theorem accounts_of_shared {t : SyntaxTree} {ts : List Token} (apart : Token.Apart ts)
    (shared : Shared (Parser.maxDepth + 1) ts t.terminals []) (size : Nat) :
    t.Accounts (ts ++ [Token.finish size]) := by
  obtain ⟨shares, whole, names, fair⟩ := shared
  rw [List.append_nil] at whole
  have part : ∀ share ∈ shares, share.tokens.Sublist ts := by
    intro share member
    rw [whole]
    exact List.sublist_flatten_of_mem (List.mem_map_of_mem member)
  have disjoint : t.terminals.Pairwise fun c d => c.node.Apart d.node :=
    names.pairwise (Share.owners_disjoint fair (whole ▸ apart)) fun apart => apart.symm
  have owned : ∀ token ∈ ts ++ [Token.finish size], token.kind ≠ .endOfInput →
      token.kind.isPunctuation = false → ∃ c ∈ t.terminals, c.node.Contains token ∧
        ∀ x, token.kind = .invalid x → c.kind = .error := by
    intro token member inner loud
    have inside := mem_of_inner member inner
    rw [whole] at inside
    obtain ⟨share, shareIn, tokenIn⟩ := List.mem_flatMap.mp inside
    obtain ⟨c, owns⟩ := (fair share shareIn).owned tokenIn loud
    refine ⟨c, names.mem_iff.mp (List.mem_filterMap.mpr ⟨share, shareIn, owns⟩), ?_, ?_⟩
    · exact (fair share shareIn).contains (apart.sublist (part share shareIn)) owns token tokenIn
    · intro x invalid
      exact (fair share shareIn).error_of_invalid tokenIn invalid owns
  refine ⟨disjoint, ?_, ?_, ?_⟩
  · intro c member nonempty
    obtain ⟨share, shareIn, owns⟩ := List.mem_filterMap.mp (names.mem_iff.mpr member)
    exact (fair share shareIn).standsFor (apart.sublist (part share shareIn))
      (part share shareIn).subset owns nonempty
  · intro token member inner loud
    obtain ⟨c, terminal, contains, -⟩ := owned token member inner loud
    refine ⟨c, ⟨terminal, contains⟩, ?_⟩
    rintro d ⟨terminal', contains'⟩
    by_contra different
    have wide := apart.wide token (mem_of_inner member inner)
    have apart := disjoint.forall terminal' terminal different
    simp only [Node.Contains, Node.Apart] at contains contains' apart
    omega
  · intro token member x invalid
    obtain ⟨c, terminal, contains, error⟩ := owned token member (by rw [invalid]; simp)
      (by rw [invalid]; rfl)
    refine ⟨c.node, ?_, error x invalid, contains⟩
    have place := (List.mem_filter.mp terminal).1
    have listed : t.cursors.map Cursor.node = t.nodes := Cursor.below_map_node t.cursor
    rw [← listed]
    exact List.mem_map_of_mem place

/-- Whatever the text, its tokens and the terminals of its tree account for one another. -/
theorem parse_accounts (text : Text) : (parse text).Accounts (Token.scan text) := by
  obtain ⟨ts, scanned, ordered, -, whole, -⟩ := exists_tokens text
  obtain ⟨forest, after, read, finished, root, levels, rule⟩ :=
    Parser.query_reads ⟨ts, Text.size text, 0⟩ (Text.size text)
  rw [scanned, whole]
  refine accounts_of_shared ordered.apart ?_ _
  generalize tree : SyntaxTree.mk text (Parser.query ⟨ts, Text.size text, 0⟩ (Text.size text)) = t
  have node : t.cursor.node = .branch .query 0 (Text.size text) (forest.map Prod.snd) := by
    rw [← tree]
    exact root
  have top : t.cursor.terminals = t.cursor.children.flatMap Cursor.terminals := by
    refine Cursor.terminals_of_container fun _ => ?_
    rw [Cursor.kind, node]
    rfl
  have placed : List.Forall₂ (Parser.Placed (Parser.maxDepth + 1)) t.cursor.children forest := by
    refine Parser.placed_children (by rw [node]; rfl) (Nat.zero_add _) ?_
    rw [Cursor.kind, node]
    exact levels
  have shared := read.shared placed
  rw [finished, ← top] at shared
  exact shared

end SyntaxTree

end MetricQuery
