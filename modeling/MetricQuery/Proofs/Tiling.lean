import MetricQuery.Proofs.TokenRange

/-!
Tokens tile their text. Cut out of the text, each token reads as its kind says, and nothing stands
before, between and behind tokens but blanks and comments.
-/

set_option autoImplicit false

namespace MetricQuery

namespace Text

/-- Blanks and comments in front of `rest`. A comment runs from `#` up to the next newline, or to
the end of the text. -/
inductive Trivia (rest : Text) : Text → Prop
  | nil : Trivia rest []
  | blank {c : Char} {gap : Text} (isBlank : isBlank c = true) (more : Trivia rest gap) :
      Trivia rest (c :: gap)
  | comment {body gap : Text} (oneLine : '\n' ∉ body)
      (ends : gap ++ rest = [] ∨ (gap ++ rest).head? = some '\n') (more : Trivia rest gap) :
      Trivia rest ('#' :: (body ++ gap))

/-- Nothing but blanks and comments stands in the bytes `[start, stop)` of a text. -/
def TriviaBetween (text : Text) (start stop : Nat) : Prop :=
  ∃ gap rest, slice? text start stop = some gap ∧ dropBytes? text stop = some rest ∧
    Trivia rest gap

theorem TriviaBetween.le {text : Text} {start stop : Nat}
    (between : TriviaBetween text start stop) : start ≤ stop := by
  obtain ⟨gap, rest, found, -, -⟩ := between
  exact le_of_slice? found

theorem triviaBetween_append (front : Text) {gap rest : Text} (trivia : Trivia rest gap) :
    TriviaBetween (front ++ (gap ++ rest)) (size front) (size front + size gap) := by
  refine ⟨gap, rest, slice?_append front gap rest, ?_, trivia⟩
  rw [← List.append_assoc, ← size_append]
  exact dropBytes?_append _ _

/-- What is left of a comment, and the blanks and comments after it. -/
def CommentTail (rest tail : Text) : Prop :=
  ∃ body gap, tail = body ++ gap ∧ '\n' ∉ body ∧
    (gap ++ rest = [] ∨ (gap ++ rest).head? = some '\n') ∧ Trivia rest gap

theorem CommentTail.trivia {rest tail : Text} (comment : CommentTail rest tail) :
    Trivia rest ('#' :: tail) := by
  obtain ⟨body, gap, rfl, oneLine, ends, more⟩ := comment
  exact .comment oneLine ends more

end Text

namespace Token

/-- What is split off in front of a token is blanks and comments; within a comment, the rest of it
comes first. -/
theorem spanTrivia_trivia (inComment : Bool) (t : Text) :
    if inComment then Text.CommentTail (spanTrivia inComment t).2 (spanTrivia inComment t).1
    else Text.Trivia (spanTrivia inComment t).2 (spanTrivia inComment t).1 := by
  fun_induction spanTrivia inComment t with
  | case1 inComment =>
    cases inComment with
    | true => exact ⟨[], [], rfl, by simp, .inl rfl, .nil⟩
    | false => exact .nil
  | case2 c t skipped rest split ih =>
    rw [split] at ih
    by_cases newline : c = '\n'
    · subst newline
      exact ⟨[], '\n' :: skipped, rfl, by simp, .inr rfl, .blank Text.isBlank_newline ih⟩
    · have open_ : (c != '\n') = true := by simpa using newline
      rw [open_] at ih
      obtain ⟨body, gap, rfl, oneLine, ends, more⟩ := ih
      exact ⟨c :: body, gap, rfl, by simp [oneLine, Ne.symm newline], ends, more⟩
  | case3 c t isBlank skipped rest split ih =>
    rw [split] at ih
    exact .blank isBlank ih
  | case4 t skipped rest split _ ih =>
    rw [split] at ih
    exact ih.trivia
  | case5 => exact .nil

theorem single_text (c : Char) : (single c).text.toList = [c] := by
  unfold single
  split <;> simp [Kind.text]

theorem pair?_text {c d : Char} {kind : Kind} (found : pair? c d = some kind) :
    kind.text.toList = [c, d] := by
  unfold pair? at found
  split at found <;> cases found <;> rfl

theorem numeric_text (t : Text) : (numeric t).kind.text.toList = (numeric t).text := by
  unfold numeric
  split <;> simp [Kind.text]

theorem symbol_text (c : Char) (t : Text) : (symbol c t).kind.text.toList = (symbol c t).text := by
  unfold symbol
  split
  · split
    · rename_i found
      exact pair?_text found
    · exact single_text c
  · exact single_text c

/-- The kind of a lexeme holds its characters. -/
theorem lexeme_text (c : Char) (t : Text) : (lexeme c t).kind.text.toList = (lexeme c t).text := by
  unfold lexeme
  split
  · simp [Kind.text]
  · split
    · exact numeric_text _
    · split
      · simp [Kind.text]
      · exact symbol_text c t

/-- The token reads in a text as its kind says; the end of input is no part of the text. -/
def Reads (text : Text) (t : Token) : Prop :=
  t.kind ≠ .endOfInput → Text.slice? text t.start t.stop = some t.kind.text.toList

theorem finish_reads (text : Text) (offset : Nat) : (finish offset).Reads text :=
  fun inner => absurd rfl inner

/-- The stretches before and between tokens: from `offset`, or where a token ends, to where the
next one starts. -/
def gaps (offset : Nat) (ts : List Token) : List (Nat × Nat) :=
  (offset :: ts.map stop).zip (ts.map start)

theorem gaps_cons (offset : Nat) (t : Token) (ts : List Token) :
    gaps offset (t :: ts) = (offset, t.start) :: gaps t.stop ts := rfl

/-- With a step for each character, scanning what follows `front` leaves out blanks and comments
only. -/
theorem scanFrom_tiles (steps : Nat) (front t : Text) (enough : t.length ≤ steps) :
    (∀ u ∈ scanFrom steps (Text.size front) t, u.Reads (front ++ t)) ∧
      ∀ gap ∈ gaps (Text.size front) (scanFrom steps (Text.size front) t),
        Text.TriviaBetween (front ++ t) gap.1 gap.2 := by
  -- What a step reads goes over to `front`: the text as a whole stays the same.
  induction steps generalizing front t with
  | zero =>
    obtain rfl := List.eq_nil_of_length_eq_zero (Nat.le_zero.mp enough)
    have last := Text.triviaBetween_append front (.nil : Text.Trivia [] [])
    simpa [scanFrom, gaps, finish_reads] using last
  | succ steps ih =>
    have whole := spanTrivia_append false t
    have trivia := spanTrivia_trivia false t
    rw [scanFrom]
    generalize spanTrivia false t = split at whole trivia ⊢
    obtain ⟨skipped, rest⟩ := split
    simp only [Bool.false_eq_true, if_false] at whole trivia ⊢
    subst whole
    have first := Text.triviaBetween_append front trivia
    cases rest with
    | nil => simpa [gaps, finish_reads] using first
    | cons c r =>
      have lex := lexeme_splits c r
      have spelled := lexeme_text c r
      dsimp only
      generalize lexeme c r = found at lex spelled ⊢
      have longer := congrArg List.length lex.whole
      have some_text := List.length_pos_iff.mpr lex.nonempty
      simp only [List.length_append, List.length_cons] at enough longer
      have whole : front ++ (skipped ++ c :: r) =
          front ++ skipped ++ found.text ++ found.rest := by
        rw [List.append_assoc, lex.whole, List.append_assoc]
      have bytes : Text.size (front ++ skipped ++ found.text) =
          Text.size front + Text.size skipped + Text.size found.text := by
        simp only [Text.size_append]
      obtain ⟨spells, between⟩ := ih (front ++ skipped ++ found.text) found.rest (by omega)
      rw [bytes, ← whole] at spells between
      have reads : (Token.mk found.kind
          ⟨Text.size front + Text.size skipped, Text.size found.text⟩).Reads
            (front ++ (skipped ++ c :: r)) := by
        intro _
        rw [spelled, whole, List.append_assoc _ found.text, ← Text.size_append]
        exact Text.slice?_append _ _ _
      constructor
      · rw [List.forall_mem_cons]
        exact ⟨reads, spells⟩
      · rw [gaps_cons, List.forall_mem_cons]
        exact ⟨first, between⟩

theorem scan_reads (text : Text) : ∀ t ∈ scan text, t.Reads text :=
  (scanFrom_tiles text.length [] text (Nat.le_refl _)).1

/-- The tokens of a text tile it. The end of input comes last and only there; every other token
covers some characters, and these are what it says; each ends before the next one starts; and what
is left of the text is blanks and comments. -/
theorem scan_tiles (text : Text) :
    ∃ ts, scan text = ts ++ [finish (Text.size text)] ∧
      (∀ t ∈ ts, t.kind ≠ .endOfInput ∧ t.start < t.stop ∧
        Text.isBoundary text t.start = true ∧ Text.isBoundary text t.stop = true ∧
        Text.slice? text t.start t.stop = some t.kind.text.toList) ∧
      ∀ gap ∈ gaps 0 (scan text), gap.1 ≤ gap.2 ∧ Text.TriviaBetween text gap.1 gap.2 := by
  obtain ⟨ts, scanned, ordered, placed⟩ := scan_tokens text
  obtain ⟨-, between⟩ := scanFrom_tiles text.length [] text (Nat.le_refl _)
  refine ⟨ts, scanned, ?_, fun gap member => ⟨(between gap member).le, between gap member⟩⟩
  intro t member
  obtain ⟨inner, first, last⟩ := placed t member
  have inside : t ∈ scan text := by
    rw [scanned]
    exact List.mem_append_left _ member
  exact ⟨inner, (ordered.start_le t member).2, first, last, scan_reads text t inside inner⟩

end Token

end MetricQuery
