import MetricQuery.Completion.Assembly
import MetricQuery.Proofs.CheckedCuts
import MetricQuery.Proofs.Innermost
import MetricQuery.Proofs.Origin
import MetricQuery.Proofs.Tiling

/-!
What a completion replaces. The range ends at the position and starts at the node there, one byte
into it or at the position itself. One byte into a node is a boundary of the text wherever the rule
asks for it: a bracket or a quote stands there.
-/

set_option autoImplicit false

namespace MetricQuery

namespace Text

theorem exists_cons_of_takeBytes? {t middle : Text} {n : Nat} {c : Char}
    (taken : takeBytes? t n = some (c :: middle)) : ∃ rest, t = c :: rest := by
  cases n with
  | zero => simp at taken
  | succ n =>
    cases t with
    | nil => cases taken
    | cons d rest =>
      rw [takeBytes?] at taken
      split at taken
      · obtain ⟨_, -, same⟩ := Option.map_eq_some_iff.mp taken
        cases same
        exact ⟨rest, rfl⟩
      · cases taken

/-- One byte into a slice is a boundary when its first character takes one byte. -/
theorem isBoundary_succ_of_slice? {t middle : Text} {start stop : Nat} {c : Char}
    (found : slice? t start stop = some (c :: middle)) (narrow : c.utf8Size = 1) :
    isBoundary t (start + 1) = true := by
  rw [slice?, if_pos (le_of_slice? found)] at found
  obtain ⟨rest, dropped, taken⟩ := Option.bind_eq_some_iff.mp found
  obtain ⟨front, rfl, rfl⟩ := exists_append_of_dropBytes? dropped
  obtain ⟨rest, rfl⟩ := exists_cons_of_takeBytes? taken
  exact isBoundary_iff.mpr ⟨front ++ [c], rest, by simp, by simp [narrow]⟩

theorem utf8Size_of_isQuote {c : Char} (quote : isQuote c = true) : c.utf8Size = 1 := by
  simp only [isQuote, backtick, Bool.or_eq_true, beq_iff_eq] at quote
  rcases quote with (rfl | rfl) | rfl
  · rfl
  · rfl
  · rfl

end Text

namespace Token

/-- Every token but the end of input is a lexeme. -/
theorem scanFrom_kind (steps offset : Nat) (t : Text) :
    ∀ u ∈ scanFrom steps offset t, u.kind ≠ .endOfInput → ∃ c r, u.kind = (lexeme c r).kind := by
  induction steps generalizing offset t with
  | zero =>
    intro u member inner
    rw [scanFrom, List.mem_singleton] at member
    subst member
    exact absurd rfl inner
  | succ steps ih =>
    rw [scanFrom]
    dsimp only
    split
    · intro u member inner
      rw [List.mem_singleton] at member
      subst member
      exact absurd rfl inner
    · rename_i c r _
      exact List.forall_mem_cons.mpr ⟨fun _ => ⟨c, r, rfl⟩, ih _ _⟩

theorem symbol_ne_string (c : Char) (t : Text) (raw : String) (terminated : Bool) :
    (symbol c t).kind ≠ .string raw terminated := by
  have alone : single c ≠ .string raw terminated := by
    unfold single
    split <;> simp
  unfold symbol
  split
  · split
    · rename_i found
      unfold pair? at found
      split at found <;> cases found <;> simp
    · exact alone
  · exact alone

/-- Only a quote starts a string literal. -/
theorem isQuote_of_lexeme {c : Char} {t : Text} {raw : String} {terminated : Bool}
    (found : (lexeme c t).kind = .string raw terminated) :
    Text.isQuote c = true ∧ ∃ body, raw.toList = c :: body := by
  unfold lexeme at found
  split at found
  · cases found
  · split at found
    · unfold numeric at found
      split at found
      · cases found
      · cases found
    · split at found
      · rename_i quote
        cases found
        exact ⟨quote, (spanString c t).1, by simp⟩
      · exact absurd found (symbol_ne_string c t raw terminated)

/-- One byte into an opening bracket or a string is a boundary. -/
theorem isBoundary_succ (text : Text) {t : Token} (member : t ∈ (Stream.ofText text).rest)
    (opens : t.kind = .leftParen ∨ t.kind = .leftBrace ∨ ∃ raw b, t.kind = .string raw b) :
    Text.isBoundary text (t.start + 1) = true := by
  have inner : t.kind ≠ .endOfInput := ((Stream.ofText_tokens text).2.1 t member).1
  have scanned := Stream.mem_scan_of_ofText text member
  have spelled := scan_reads text t scanned inner
  rcases opens with paren | brace | ⟨raw, terminated, string⟩
  · rw [paren] at spelled
    exact Text.isBoundary_succ_of_slice? spelled rfl
  · rw [brace] at spelled
    exact Text.isBoundary_succ_of_slice? spelled rfl
  · obtain ⟨c, r, same⟩ := scanFrom_kind _ _ _ t scanned inner
    obtain ⟨quote, body, starts⟩ := isQuote_of_lexeme (same.symm.trans string)
    rw [string, Kind.text, starts] at spelled
    exact Text.isBoundary_succ_of_slice? spelled (Text.utf8Size_of_isQuote quote)

end Token

namespace Side

variable {pos : Nat} {n : Node}

theorem covers_before_iff : before.covers pos n = true ↔ n.start < pos ∧ pos ≤ n.stop := by
  simp [covers]

theorem covers_before_eq_false : before.covers pos n = false ↔ (n.start < pos → n.stop < pos) := by
  simp [covers]

end Side

/-- Going down ends where no child is covered. -/
theorem Cursor.descend_stops (covers : Node → Bool) (c : Cursor) :
    ∀ n ∈ (c.descend covers).node.children, covers n = false := by
  rw [descend_eq]
  cases first : c.children.find? fun d => covers d.node with
  | none =>
    intro n member
    rw [← children_map_node] at member
    obtain ⟨d, child, rfl⟩ := List.mem_map.mp member
    simpa using List.find?_eq_none.mp first d child
  | some d =>
    have smaller := sizeOf_node_lt_of_mem (List.mem_of_find?_eq_some first)
    exact descend_stops covers d
termination_by sizeOf c.node

namespace SyntaxTree

variable {text : Text} {pos : Nat} {side : Side}

/-- The node at a position is one of the tree. -/
theorem resolve_mem (text : Text) (pos : Nat) (side : Side) :
    (parse text).resolve pos side ∈ (parse text).cursors :=
  mem_cursors_iff.mpr ((parse text).cursor.reaches_descend (side.covers pos))

theorem node_mem_nodes {t : SyntaxTree} {c : Cursor} (place : c ∈ t.cursors) :
    c.node ∈ t.nodes := (mem_cursors_iff.mp place).mem_preorder

/-- The node at a position covers it, or is the root. -/
theorem resolve_covers {t : SyntaxTree} :
    t.resolve pos side = t.cursor ∨ side.covers pos (t.resolve pos side).node = true :=
  t.cursor.descend_covers (side.covers pos)

/-- No child of the node at a position covers it. -/
theorem resolve_stops (t : SyntaxTree) (pos : Nat) (side : Side) :
    ∀ n ∈ (t.resolve pos side).node.children, side.covers pos n = false :=
  t.cursor.descend_stops (side.covers pos)

theorem resolve_start_lt {t : SyntaxTree} (root : t.root.kind = .query)
    (below : (t.resolve pos .before).kind ≠ .query) :
    (t.resolve pos .before).node.start < pos ∧ pos ≤ (t.resolve pos .before).node.stop := by
  rcases resolve_covers with same | covers
  · rw [same] at below
    exact absurd root below
  · exact Side.covers_before_iff.mp covers

end SyntaxTree

namespace Completion

/-- In a body the position is where a replacement starts, unless there is nothing in it. -/
theorem replacementStart_body {c : Cursor} (pos : Nat) (body : c.kind.isBody = true) :
    replacementStart c pos = if c.node.children.isEmpty then c.node.start + 1 else pos := by
  unfold Cursor.kind NodeKind.isBody at body
  unfold replacementStart
  split at body
  · rename_i kind
    simp only [kind]
  · rename_i kind
    simp only [kind]
  · rename_i kind
    simp only [kind]
  · cases body

/-- Where a replacement starts: at the position, at the node or, in a body without children or a
string, one byte into it. -/
theorem replacementStart_cases (c : Cursor) (pos : Nat) :
    replacementStart c pos = pos ∨
      c.kind ≠ .query ∧ (replacementStart c pos = c.node.start ∨
        (c.kind.isBody = true ∨ c.kind = .stringLiteral) ∧
          replacementStart c pos = c.node.start + 1) := by
  by_cases body : c.kind.isBody = true
  · rw [replacementStart_body pos body]
    split
    · right
      refine ⟨?_, .inr ⟨.inl body, rfl⟩⟩
      intro root
      rw [root] at body
      cases body
    · exact .inl rfl
  · unfold Cursor.kind at body ⊢
    unfold replacementStart
    dsimp only
    generalize c.node.kind = kind at body ⊢
    split
    any_goals exact absurd rfl body
    any_goals exact .inl rfl
    · split
      · exact .inr ⟨nofun, .inr ⟨.inr rfl, rfl⟩⟩
      · exact .inr ⟨nofun, .inl rfl⟩
    · split
      · exact .inl rfl
      · exact .inr ⟨nofun, .inl rfl⟩
    · rename_i notRoot _ _ _
      exact .inr ⟨notRoot, .inl rfl⟩

variable {text : Text} {pos : Nat}

/-- A replacement starts no later than the position. -/
theorem replacementStart_le (text : Text) (pos : Nat) :
    replacementStart ((SyntaxTree.parse text).resolve pos .before) pos ≤ pos := by
  have root := (SyntaxTree.parse_wellFormed text).root_kind
  rcases replacementStart_cases ((SyntaxTree.parse text).resolve pos .before) pos with
    atPos | ⟨below, atNode | ⟨-, inside⟩⟩
  · omega
  · have before := SyntaxTree.resolve_start_lt root below
    omega
  · have before := SyntaxTree.resolve_start_lt root below
    omega

/-- A replacement up to a boundary starts on one. -/
theorem replacementStart_isBoundary (boundary : Text.isBoundary text pos = true) :
    Text.isBoundary text
      (replacementStart ((SyntaxTree.parse text).resolve pos .before) pos) = true := by
  have place := SyntaxTree.resolve_mem text pos .before
  generalize (SyntaxTree.parse text).resolve pos .before = c at place ⊢
  have member := SyntaxTree.node_mem_nodes place
  have arises := SyntaxTree.parse_arises text _ member
  have order := Stream.ofText_inOrder text
  rcases replacementStart_cases c pos with atPos | ⟨-, atNode | ⟨kinds, inside⟩⟩
  · rwa [atPos]
  · rw [atNode]
    exact ((SyntaxTree.parse_wellFormed text).boundaries _ member).1
  · rw [inside]
    rcases kinds with body | string
    · obtain ⟨s, leads, opens, start⟩ := arises.opens order body
      have more : s.rest ≠ [] := by
        apply Parser.rest_ne_nil
        rcases opens with same | same <;> simp [same]
      rw [start]
      refine Token.isBoundary_succ text (leads.current_mem more) ?_
      rcases opens with paren | brace
      · exact .inl paren
      · exact .inr (.inl brace)
    · have kind : c.node.kind = .stringLiteral := string
      obtain ⟨s, leads, more, stands, same⟩ :=
        arises.token (by rw [kind]; rfl) (by simp [kind]) (by simp [kind])
      rw [same]
      rw [kind] at stands
      exact Token.isBoundary_succ text (leads.current_mem more)
        (.inr (.inr (NodeKind.exists_string stands)))

variable {σ : Type}

/-- What a completion returns, if anything fits at the position. -/
theorem complete_result (client : Option (MetadataClient σ)) (limit : Nat) (text : Text) (pos : Nat)
    (s : σ) {r : CompletionResult} (found : (complete client limit text pos s).result = some r) :
    let p := min pos (Text.size text)
    let c := (SyntaxTree.parse text).resolve p .before
    contexts text c p ≠ [] ∧ r.start = replacementStart c p ∧ r.stop = p ∧
      r.span = if (contexts text c p).any (·.kind == .duration) then none
        else some identifierSpan := by
  intro p c
  simp only [complete] at found
  split at found
  · cases found
  · rename_i some
    cases found
    exact ⟨some, rfl, rfl, rfl⟩

/-- The analysis cuts a text only where it can be cut. What a completion replaces ends at the
position, or at the end of the text if the position lies beyond, and starts no later; it starts on a
boundary if it ends on one. Words bound the result unless a duration is suggested. -/
theorem complete_editRange (client : Option (MetadataClient σ)) (limit : Nat) (text : Text)
    (pos : Nat) (s : σ) :
    let p := min pos (Text.size text)
    let c := (SyntaxTree.parse text).resolve p .before
    contexts? text c p = some (contexts text c p) ∧
      ∀ r, (complete client limit text pos s).result = some r →
        r.start ≤ r.stop ∧ r.stop = p ∧
          (Text.isBoundary text p = true → Text.isBoundary text r.start = true) ∧
          (r.span = none ↔ ∃ ctx ∈ contexts text c p, ctx.kind = .duration) := by
  intro p c
  refine ⟨contexts?_eq (SyntaxTree.parse_onSlices text (SyntaxTree.resolve_mem text p .before)) p,
    ?_⟩
  intro r found
  obtain ⟨-, start, stop, span⟩ := complete_result client limit text pos s found
  refine ⟨?_, stop, ?_, ?_⟩
  · rw [start, stop]
    exact replacementStart_le text p
  · intro boundary
    rw [start]
    exact replacementStart_isBoundary boundary
  · rw [span]
    split
    · rename_i some
      simpa using some
    · rename_i none
      simpa using none

/-- Behind an opening quote and a letter of two bytes: only the letter is replaced. -/
theorem complete_editRange_quoted :
    (complete (none : Option (MetadataClient Unit)) 0 "a\x7bb=\"\u00e9".toList 9 ()).result =
        some ⟨5, 7, [], some identifierSpan⟩ ∧
      5 ≤ 7 ∧ Text.isBoundary "a\x7bb=\"\u00e9".toList 5 = true := by
  have result : (complete (none : Option (MetadataClient Unit)) 0
      "a\x7bb=\"\u00e9".toList 9 ()).result = some ⟨5, 7, [], some identifierSpan⟩ := by
    decide +kernel
  have range := (complete_editRange none 0 _ 9 ()).2 _ result
  exact ⟨result, range.1, range.2.2.1 (by decide +kernel)⟩

end Completion

end MetricQuery
