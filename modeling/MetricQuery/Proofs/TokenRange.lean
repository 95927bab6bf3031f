import MetricQuery.Proofs.Boundary
import MetricQuery.Syntax.Parser

/-!
Where tokens stand. Every splitting function hands back the text it was given, in two pieces, so
the tokens of a text follow one another on character boundaries and none of them is empty.
-/

set_option autoImplicit false

namespace MetricQuery

namespace Token

theorem spanTrivia_append (inComment : Bool) (t : Text) :
    (spanTrivia inComment t).1 ++ (spanTrivia inComment t).2 = t := by
  fun_induction spanTrivia inComment t <;> simp_all

theorem spanUnit?_append {t u rest : Text} (found : spanUnit? t = some (u, rest)) :
    u ++ rest = t := by
  obtain ⟨unit, -, taken⟩ := List.exists_of_findSome?_eq_some found
  split at taken
  · rename_i leading
    simp only [Option.some.injEq, Prod.mk.injEq] at taken
    obtain ⟨rfl, rfl⟩ := taken
    obtain ⟨after, rfl⟩ := List.isPrefixOf_iff_prefix.mp leading
    simp
  · cases taken

theorem spanParts_append (steps : Nat) (t : Text) :
    (spanParts steps t).1 ++ (spanParts steps t).2 = t := by
  fun_induction spanParts steps t with
  | case1 => rfl
  | case2 => rfl
  | case3 => rfl
  | case4 steps t digits some_digit unit r found more rest tail ih =>
    rw [tail] at ih
    simp only at ih
    rw [List.append_assoc, List.append_assoc, ih, spanUnit?_append found]
    exact List.takeWhile_append_dropWhile

theorem spanDuration?_append {t d rest : Text} (found : spanDuration? t = some (d, rest)) :
    d ++ rest = t ∧ d ≠ [] := by
  have whole := spanParts_append t.length t
  revert whole found
  simp only [spanDuration?]
  generalize spanParts t.length t = split
  obtain ⟨parts, after⟩ := split
  intro found whole
  simp only at found whole
  split at found
  · cases found
  · rename_i nonempty
    have kept : parts = d ∧ after = rest := by
      split at found
      · simpa using found
      · split at found
        · cases found
        · simpa using found
    obtain ⟨rfl, rfl⟩ := kept
    exact ⟨whole, by simpa using nonempty⟩

theorem spanExponent_append (t : Text) : (spanExponent t).1 ++ (spanExponent t).2 = t := by
  unfold spanExponent
  split
  · split
    · split
      · dsimp only
        split
        · rfl
        · simp [List.takeWhile_append_dropWhile]
      · dsimp only
        split
        · rfl
        · rw [List.cons_append, List.takeWhile_append_dropWhile]
    · rfl
  · rfl

theorem spanFraction_append (t : Text) : (spanFraction t).1 ++ (spanFraction t).2 = t := by
  unfold spanFraction
  split
  · simp [List.takeWhile_append_dropWhile]
  · rfl

theorem spanDecimal_append (t : Text) : (spanDecimal t).1 ++ (spanDecimal t).2 = t := by
  have fraction := spanFraction_append (t.dropWhile Char.isDigit)
  have exponent := spanExponent_append (spanFraction (t.dropWhile Char.isDigit)).2
  simp only [spanDecimal, List.append_assoc]
  rw [exponent, fraction]
  exact List.takeWhile_append_dropWhile

theorem spanNumber_append (t : Text) : (spanNumber t).1 ++ (spanNumber t).2 = t := by
  unfold spanNumber
  split
  · split
    · simp [List.takeWhile_append_dropWhile]
    · exact spanDecimal_append _
  · exact spanDecimal_append _

theorem spanString_append (quote : Char) (t : Text) :
    (spanString quote t).1 ++ (spanString quote t).2.2 = t := by
  fun_induction spanString quote t <;> simp_all

theorem spanDecimal_ne_nil {c : Char} {t : Text} (starts : c.isDigit = true ∨ c = '.') :
    (spanDecimal (c :: t)).1 ≠ [] := by
  by_cases digit : c.isDigit = true
  · simp [spanDecimal, digit]
  · have point : c = '.' := starts.resolve_left digit
    subst point
    simp [spanDecimal, spanFraction]

theorem spanNumber_ne_nil {c : Char} {t : Text} (starts : c.isDigit = true ∨ c = '.') :
    (spanNumber (c :: t)).1 ≠ [] := by
  unfold spanNumber
  split
  · rename_i mark r same
    split
    · simp
    · exact spanDecimal_ne_nil starts
  · exact spanDecimal_ne_nil starts

/-- A lexeme takes a first part of the text, not an empty one, and is not the end of input. -/
structure Lexeme.Splits (lex : Lexeme) (t : Text) : Prop where
  whole : lex.text ++ lex.rest = t
  nonempty : lex.text ≠ []
  kind : lex.kind ≠ .endOfInput

theorem numeric_splits {c : Char} {t : Text} (starts : c.isDigit = true ∨ c = '.') :
    (numeric (c :: t)).Splits (c :: t) := by
  unfold numeric
  split
  · rename_i d rest found
    obtain ⟨whole, nonempty⟩ := spanDuration?_append found
    exact ⟨whole, nonempty, by simp⟩
  · exact ⟨spanNumber_append _, spanNumber_ne_nil starts, by simp⟩

theorem pair?_ne_endOfInput {c d : Char} {kind : Kind} (found : pair? c d = some kind) :
    kind ≠ .endOfInput := by
  unfold pair? at found
  split at found <;> simp_all <;> subst found <;> simp

theorem single_ne_endOfInput (c : Char) : single c ≠ .endOfInput := by
  unfold single
  split <;> simp

theorem symbol_splits (c : Char) (t : Text) : (symbol c t).Splits (c :: t) := by
  unfold symbol
  split
  · split
    · rename_i found
      exact ⟨rfl, by simp, pair?_ne_endOfInput found⟩
    · exact ⟨rfl, by simp, single_ne_endOfInput c⟩
  · exact ⟨rfl, by simp, single_ne_endOfInput c⟩

theorem lexeme_splits (c : Char) (t : Text) : (lexeme c t).Splits (c :: t) := by
  unfold lexeme
  split
  · refine ⟨?_, by simp, by simp⟩
    simp [List.takeWhile_append_dropWhile]
  · split
    · rename_i starts
      apply numeric_splits
      simp only [Bool.or_eq_true, Bool.and_eq_true, beq_iff_eq] at starts
      exact starts.imp_right And.left
    · split
      · refine ⟨?_, by simp, by simp⟩
        rw [List.cons_append, spanString_append]
      · exact symbol_splits c t

/-- Tokens that follow one another from `offset` on, none of them empty. -/
def Ordered : Nat → List Token → Prop
  | _, [] => True
  | offset, t :: ts => offset ≤ t.start ∧ t.start < t.stop ∧ Ordered t.stop ts

theorem Ordered.mono {lower upper : Nat} {ts : List Token} (ordered : Ordered upper ts)
    (below : lower ≤ upper) : Ordered lower ts := by
  cases ts with
  | nil => trivial
  | cons t ts => exact ⟨Nat.le_trans below ordered.1, ordered.2⟩

theorem Ordered.start_le {offset : Nat} {ts : List Token} (ordered : Ordered offset ts) :
    ∀ t ∈ ts, offset ≤ t.start ∧ t.start < t.stop := by
  induction ts generalizing offset with
  | nil => simp
  | cons u ts ih =>
    intro t member
    rcases List.mem_cons.mp member with rfl | member
    · exact ⟨ordered.1, ordered.2.1⟩
    · have later := ih ordered.2.2 t member
      have first := ordered.1
      have wide := ordered.2.1
      omega

/-- Every token stands on character boundaries of `text` and is not its end. -/
def OnBoundaries (text : Text) (ts : List Token) : Prop :=
  ∀ t ∈ ts, t.kind ≠ .endOfInput ∧
    Text.isBoundary text t.start = true ∧ Text.isBoundary text t.stop = true

/-- Scanning what follows `front` gives tokens in order, behind it and on boundaries of the whole
text, and then the end of the text. -/
theorem scanFrom_tokens (steps : Nat) (front t : Text) :
    ∃ ts, scanFrom steps (Text.size front) t = ts ++ [finish (Text.size (front ++ t))] ∧
      Ordered (Text.size front) ts ∧ OnBoundaries (front ++ t) ts := by
  induction steps generalizing front t with
  | zero => exact ⟨[], by simp [scanFrom], trivial, by simp [OnBoundaries]⟩
  | succ steps ih =>
    have trivia := spanTrivia_append false t
    rw [scanFrom]
    generalize spanTrivia false t = gap at trivia ⊢
    obtain ⟨skipped, rest⟩ := gap
    simp only at trivia ⊢
    subst trivia
    cases rest with
    | nil => exact ⟨[], by simp, trivial, by simp [OnBoundaries]⟩
    | cons c r =>
      have lex := lexeme_splits c r
      dsimp only
      generalize lexeme c r = found at lex ⊢
      have wide := Text.size_pos lex.nonempty
      have before : Text.size (front ++ skipped) = Text.size front + Text.size skipped :=
        Text.size_append _ _
      have through : Text.size (front ++ skipped ++ found.text) =
          Text.size front + Text.size skipped + Text.size found.text := by
        simp only [Text.size_append]
      have whole : front ++ (skipped ++ c :: r) =
          front ++ skipped ++ found.text ++ found.rest := by
        rw [List.append_assoc, lex.whole, List.append_assoc]
      obtain ⟨ts, scanned, ordered, placed⟩ := ih (front ++ skipped ++ found.text) found.rest
      rw [through] at scanned ordered
      refine ⟨⟨found.kind, Text.size front + Text.size skipped, Text.size found.text⟩ :: ts,
        ?_, ⟨?_, ?_, ordered⟩, ?_⟩
      · rw [scanned, ← whole]
        rfl
      · exact Nat.le_add_right _ _
      · exact Nat.lt_add_of_pos_right wide
      · rw [whole]
        intro t member
        rcases List.mem_cons.mp member with rfl | member
        · refine ⟨lex.kind, ?_, ?_⟩
          · change Text.isBoundary _ (Text.size front + Text.size skipped) = true
            rw [← before, List.append_assoc _ found.text]
            exact Text.isBoundary_append _ _
          · change Text.isBoundary _ (Text.size front + Text.size skipped + _) = true
            rw [← through]
            exact Text.isBoundary_append _ _
        · exact placed t member

/-- The tokens of a text stand in order and on boundaries, and the end of the text follows them. -/
theorem scan_tokens (text : Text) :
    ∃ ts, scan text = ts ++ [finish (Text.size text)] ∧ Ordered 0 ts ∧ OnBoundaries text ts :=
  scanFrom_tokens text.length [] text

end Token

/-- The end of input apart, the first tokens of a text are the first tokens before its end. -/
theorem Stream.ofTokens_take {ts : List Token} (inner : ∀ t ∈ ts, t.kind ≠ .endOfInput)
    (size count : Nat) :
    Stream.ofTokens ((ts ++ [Token.finish size]).take count) size = ⟨ts.take count, size, 0⟩ := by
  induction ts generalizing count with
  | nil =>
    cases count with
    | zero => rfl
    | succ count => rw [List.nil_append, List.take_of_length_le (by simp)]; rfl
  | cons t ts ih =>
    cases count with
    | zero => rfl
    | succ count =>
      have more := inner t List.mem_cons_self
      have tail := ih (fun u member => inner u (List.mem_cons_of_mem t member)) count
      simp only [Stream.ofTokens, Stream.mk.injEq, and_true] at tail
      simp only [List.cons_append, List.take_succ_cons, Stream.ofTokens, Stream.mk.injEq, and_true]
      rw [List.takeWhile_cons_of_pos (by simpa using more), tail.1,
        List.find?_cons_of_neg (by simpa using more), tail.2]
      exact ⟨rfl, rfl⟩

/-- The tree of a text, or of its first tokens, is read from tokens in order and on boundaries. -/
theorem SyntaxTree.exists_tokens (text : Text) :
    ∃ ts, Token.scan text = ts ++ [Token.finish (Text.size text)] ∧ Token.Ordered 0 ts ∧
      Token.OnBoundaries text ts ∧
      parse text = ⟨text, Parser.query ⟨ts, Text.size text, 0⟩ (Text.size text)⟩ ∧
      ∀ count, ofTokens ((Token.scan text).take count) text =
        ⟨text, Parser.query ⟨ts.take count, Text.size text, 0⟩ (Text.size text)⟩ := by
  obtain ⟨ts, scanned, ordered, placed⟩ := Token.scan_tokens text
  have inner : ∀ t ∈ ts, t.kind ≠ .endOfInput := fun t member => (placed t member).1
  refine ⟨ts, scanned, ordered, placed, ?_, fun count => ?_⟩
  · have whole := Stream.ofTokens_take inner (Text.size text) (ts.length + 1)
    rw [List.take_of_length_le (by simp), List.take_of_length_le (by simp)] at whole
    rw [parse, ofTokens, scanned, whole]
  · rw [ofTokens, scanned, Stream.ofTokens_take inner]

end MetricQuery
