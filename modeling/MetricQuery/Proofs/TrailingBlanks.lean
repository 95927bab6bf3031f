import MetricQuery.Proofs.EditRange

/-!
Blanks at the end of a text. No token but a string without its closing quote reaches into blanks
that are appended to a text, so the tokens stay what they are and only the end of input moves.
-/

set_option autoImplicit false

namespace MetricQuery

namespace Text

variable {b : Char}

/-- Blanks lie outside the printable ASCII characters. -/
theorem code_of_isBlank (blank : isBlank b = true) : b.toNat < 33 ∨ 126 < b.toNat := by
  simp only [isBlank, blankRanges, List.any_cons, List.any_nil, Bool.or_false, Bool.or_eq_true,
    Bool.and_eq_true, decide_eq_true_eq] at blank
  omega

theorem ne_of_isBlank (blank : isBlank b = true) {c : Char} (lower : 33 ≤ c.toNat)
    (upper : c.toNat ≤ 126) : b ≠ c := by
  have code := code_of_isBlank blank
  rintro rfl
  omega

end Text

namespace Token

variable {b : Char}

theorem isDigit_blank (blank : Text.isBlank b = true) : b.isDigit = false := by
  have code := Text.code_of_isBlank blank
  simp only [Char.isDigit, Bool.and_eq_false_iff, decide_eq_false_iff_not, UInt32.le_iff_toNat_le,
    ge_iff_le]
  change ¬ 48 ≤ b.toNat ∨ ¬ b.toNat ≤ 57
  omega

theorem isAlphanum_blank (blank : Text.isBlank b = true) : b.isAlphanum = false := by
  have code := Text.code_of_isBlank blank
  have upper : b.isUpper = false := by
    change decide (65 ≤ b.toNat ∧ b.toNat ≤ 90) = false
    exact decide_eq_false (by omega)
  have lower : b.isLower = false := by
    change (decide (97 ≤ b.toNat) && decide (b.toNat ≤ 122)) = false
    rw [Bool.and_eq_false_iff, decide_eq_false_iff_not, decide_eq_false_iff_not]
    omega
  change (b.isUpper || b.isLower || b.isDigit) = false
  rw [upper, lower, isDigit_blank blank]
  rfl

theorem isNameRest_blank (blank : Text.isBlank b = true) : isNameRest b = false := by
  have underscore : b ≠ '_' := Text.ne_of_isBlank blank (by decide) (by decide)
  have colon : b ≠ ':' := Text.ne_of_isBlank blank (by decide) (by decide)
  simp [isNameRest, isAlphanum_blank blank, underscore, colon]

theorem isHexDigit_blank (blank : Text.isBlank b = true) : isHexDigit b = false := by
  have code := Text.code_of_isBlank blank
  simp only [isHexDigit, isDigit_blank blank, Bool.false_or, Bool.or_eq_false_iff,
    Bool.and_eq_false_iff, decide_eq_false_iff_not, Char.le_def, UInt32.le_iff_toNat_le]
  change (¬ 97 ≤ b.toNat ∨ ¬ b.toNat ≤ 102) ∧ (¬ 65 ≤ b.toNat ∨ ¬ b.toNat ≤ 70)
  omega

section Spans

variable {w : Text}

/-- A first part of a text and a rest that is longer by `w`. -/
def withRest (w : Text) (r : Text × Text) : Text × Text := (r.1, r.2 ++ w)

theorem takeWhile_blank {p : Char → Bool} (ends : p b = false) (t : Text) :
    (t ++ b :: w).takeWhile p = t.takeWhile p := by
  induction t with
  | nil => simp [ends]
  | cons c t ih =>
    rw [List.cons_append, List.takeWhile_cons, List.takeWhile_cons, ih]

theorem dropWhile_blank {p : Char → Bool} (ends : p b = false) (t : Text) :
    (t ++ b :: w).dropWhile p = t.dropWhile p ++ b :: w := by
  induction t with
  | nil => simp [ends]
  | cons c t ih =>
    rw [List.cons_append, List.dropWhile_cons, List.dropWhile_cons, ih]
    split
    · rfl
    · rfl

theorem isPrefixOf_blank {u : Text} (absent : b ∉ u) (t : Text) :
    u.isPrefixOf (t ++ b :: w) = u.isPrefixOf t := by
  induction u generalizing t with
  | nil => simp
  | cons c u ih =>
    have other : c ≠ b := by
      rintro rfl
      exact absent List.mem_cons_self
    cases t with
    | nil => simp [List.isPrefixOf, other]
    | cons d t =>
      have rest := ih (fun member => absent (List.mem_cons_of_mem c member)) t
      simp only [List.cons_append, List.isPrefixOf, rest]

theorem spanUnit?_blank (blank : Text.isBlank b = true) (t : Text) :
    spanUnit? (t ++ b :: w) = (spanUnit? t).map (withRest (b :: w)) := by
  have absent : ∀ u ∈ durationUnits, b ∉ u := by
    intro u member inside
    have code := Text.code_of_isBlank blank
    have letters : (durationUnits.all fun u =>
        u.all fun c => 33 ≤ c.toNat && c.toNat ≤ 126) = true := by decide
    have letter := List.all_eq_true.mp (List.all_eq_true.mp letters u member) b inside
    rw [Bool.and_eq_true, decide_eq_true_eq, decide_eq_true_eq] at letter
    omega
  unfold spanUnit?
  generalize durationUnits = units at absent
  induction units with
  | nil => rfl
  | cons u units ih =>
    obtain ⟨first, later⟩ := List.forall_mem_cons.mp absent
    rw [List.findSome?_cons, List.findSome?_cons, isPrefixOf_blank first]
    by_cases leads : u.isPrefixOf t = true
    · have short := (List.isPrefixOf_iff_prefix.mp leads).length_le
      simp [leads, withRest, List.drop_append_of_le_length short]
    · simp only [leads, Bool.false_eq_true, if_false]
      exact ih later

theorem spanParts_blank (blank : Text.isBlank b = true) (steps steps' : Nat) (t : Text)
    (enough : t.length ≤ steps) (enough' : t.length ≤ steps') :
    spanParts steps' (t ++ b :: w) = withRest (b :: w) (spanParts steps t) := by
  have digit := isDigit_blank blank
  induction steps generalizing steps' t with
  | zero =>
    obtain rfl := List.length_eq_zero_iff.mp (Nat.le_zero.mp enough)
    cases steps' with
    | zero => rfl
    | succ steps' => simp [spanParts, withRest, digit]
  | succ steps ih =>
    by_cases none : t.takeWhile Char.isDigit = []
    · cases steps' with
      | zero => simp [spanParts, withRest, none]
      | succ steps' => simp [spanParts, withRest, takeWhile_blank digit, none]
    · have parts : (t.takeWhile Char.isDigit).length + (t.dropWhile Char.isDigit).length =
          t.length := by
        rw [← List.length_append, List.takeWhile_append_dropWhile]
      have some := List.length_pos_iff.mpr none
      obtain ⟨steps', rfl⟩ := Nat.exists_eq_succ_of_ne_zero (n := steps') (by omega)
      rw [spanParts, spanParts, takeWhile_blank digit, dropWhile_blank digit,
        spanUnit?_blank blank]
      cases found : spanUnit? (t.dropWhile Char.isDigit) with
      | none => simp [withRest, none]
      | some split =>
        obtain ⟨u, r⟩ := split
        have unit := congrArg List.length (spanUnit?_append found)
        rw [List.length_append] at unit
        have more := ih steps' r (by omega) (by omega)
        simp [withRest, none, more]

theorem spanDuration?_blank (blank : Text.isBlank b = true) (t : Text) :
    spanDuration? (t ++ b :: w) = (spanDuration? t).map (withRest (b :: w)) := by
  have parts := spanParts_blank (w := w) blank t.length (t ++ b :: w).length t (Nat.le_refl _)
    (by simp)
  have underscore : b ≠ '_' := Text.ne_of_isBlank blank (by decide) (by decide)
  rw [spanDuration?, spanDuration?, parts]
  generalize spanParts t.length t = split
  obtain ⟨parts, rest⟩ := split
  dsimp only [withRest]
  by_cases none : parts = []
  · simp [none]
  · cases rest with
    | nil => simp [none, withRest, isAlphanum_blank blank, underscore]
    | cons c rest =>
      by_cases goes : (c.isAlphanum || c == '_') = true
      · simp [none, goes]
      · simp [none, goes, withRest]

theorem spanExponent_blank (blank : Text.isBlank b = true) (t : Text) :
    spanExponent (t ++ b :: w) = withRest (b :: w) (spanExponent t) := by
  have digit := isDigit_blank blank
  have plus : b ≠ '+' := Text.ne_of_isBlank blank (by decide) (by decide)
  have minus : b ≠ '-' := Text.ne_of_isBlank blank (by decide) (by decide)
  have lower : b ≠ 'e' := Text.ne_of_isBlank blank (by decide) (by decide)
  have upper : b ≠ 'E' := Text.ne_of_isBlank blank (by decide) (by decide)
  cases t with
  | nil =>
    cases w with
    | nil => rfl
    | cons c w => simp [spanExponent, withRest, lower, upper]
  | cons mark t =>
    cases t with
    | nil => simp [spanExponent, withRest, plus, minus, digit]
    | cons sign r =>
      simp only [spanExponent, List.cons_append]
      have taken := takeWhile_blank (w := w) digit (sign :: r)
      have left := dropWhile_blank (w := w) digit (sign :: r)
      simp only [List.cons_append] at taken left
      rw [taken, left, takeWhile_blank digit, dropWhile_blank digit]
      split
      · split
        · split
          · rfl
          · rfl
        · split
          · rfl
          · rfl
      · rfl

theorem spanFraction_blank (blank : Text.isBlank b = true) (t : Text) :
    spanFraction (t ++ b :: w) = withRest (b :: w) (spanFraction t) := by
  have digit := isDigit_blank blank
  have point : b ≠ '.' := Text.ne_of_isBlank blank (by decide) (by decide)
  cases t with
  | nil => simp [spanFraction, withRest, point]
  | cons c t =>
    by_cases isPoint : c = '.'
    · subst isPoint
      simp [spanFraction, withRest, takeWhile_blank digit, dropWhile_blank digit]
    · simp [spanFraction, withRest, isPoint]

theorem spanDecimal_blank (blank : Text.isBlank b = true) (t : Text) :
    spanDecimal (t ++ b :: w) = withRest (b :: w) (spanDecimal t) := by
  have digit := isDigit_blank blank
  simp only [spanDecimal, takeWhile_blank digit, dropWhile_blank digit, spanFraction_blank blank,
    withRest, spanExponent_blank blank]

theorem spanNumber_blank (blank : Text.isBlank b = true) (t : Text) :
    spanNumber (t ++ b :: w) = withRest (b :: w) (spanNumber t) := by
  have hex := isHexDigit_blank blank
  have zero : b ≠ '0' := Text.ne_of_isBlank blank (by decide) (by decide)
  have lower : b ≠ 'x' := Text.ne_of_isBlank blank (by decide) (by decide)
  have upper : b ≠ 'X' := Text.ne_of_isBlank blank (by decide) (by decide)
  have decimal := spanDecimal_blank (w := w) blank t
  cases t with
  | nil =>
    rw [List.nil_append] at decimal ⊢
    rw [spanNumber, spanNumber, decimal]
    · simp
    · simp [zero]
  | cons c t =>
    rw [List.cons_append] at decimal ⊢
    by_cases isZero : c = '0'
    · subst isZero
      cases t with
      | nil => simpa [spanNumber, lower, upper] using decimal
      | cons mark r =>
        by_cases isHex : mark = 'x' ∨ mark = 'X'
        · simp [spanNumber, isHex, withRest, takeWhile_blank hex, dropWhile_blank hex]
        · simpa [spanNumber, isHex] using decimal
    · rw [spanNumber, spanNumber, decimal]
      · simp [isZero]
      · simp [isZero]

/-- Nothing behind the closing quote is read. -/
theorem spanString_closed {quote : Char} {t : Text} (closed : (spanString quote t).2.1 = true)
    (w : Text) :
    spanString quote (t ++ w) = ((spanString quote t).1, true, (spanString quote t).2.2 ++ w) := by
  fun_induction spanString quote t with
  | case1 => cases closed
  | case2 => cases closed
  | case3 c escapes d r body terminated rest split ih =>
    rw [split] at ih
    simp only at closed ih
    rw [List.cons_append, List.cons_append, spanString, if_pos escapes, ih closed]
  | case4 t plain =>
    rw [List.cons_append, spanString.eq_def]
    simp only [if_neg plain, if_true]
  | case5 c t plain other body terminated rest split ih =>
    rw [split] at ih
    simp only at closed ih
    rw [List.cons_append, spanString.eq_def]
    simp only [if_neg plain, if_neg other, ih closed]

/-- Without a closing quote everything is read. -/
theorem spanString_unclosed {quote : Char} {t : Text} (opened : (spanString quote t).2.1 = false) :
    (spanString quote t).2.2 = [] := by
  fun_induction spanString quote t <;> simp_all

theorem symbol_blank (blank : Text.isBlank b = true) (c : Char) (t : Text) :
    symbol c (t ++ b :: w) = { symbol c t with rest := (symbol c t).rest ++ b :: w } := by
  cases t with
  | nil =>
    have alone : pair? c b = none := by
      have eq : b ≠ '=' := Text.ne_of_isBlank blank (by decide) (by decide)
      have tilde : b ≠ '~' := Text.ne_of_isBlank blank (by decide) (by decide)
      unfold pair?
      split <;> simp_all
    simp [symbol, alone]
  | cons d t =>
    simp only [symbol, List.cons_append]
    split
    · rfl
    · rfl

theorem startsWithDigit_blank (blank : Text.isBlank b = true) (t : Text) :
    startsWithDigit (t ++ b :: w) = startsWithDigit t := by
  cases t with
  | nil => exact isDigit_blank blank
  | cons c t => rfl

theorem numeric_blank (blank : Text.isBlank b = true) (t : Text) :
    numeric (t ++ b :: w) = { numeric t with rest := (numeric t).rest ++ b :: w } := by
  rw [numeric, numeric, spanDuration?_blank blank]
  cases spanDuration? t with
  | some split => rfl
  | none =>
    rw [spanNumber_blank blank]
    rfl

/-- Blanks behind a lexeme stay behind it, unless it is a string that still is open. -/
theorem lexeme_blank (blank : Text.isBlank b = true) {c : Char} {t : Text}
    (closed : ∀ raw, (lexeme c t).kind ≠ .string raw false) :
    lexeme c (t ++ b :: w) = { lexeme c t with rest := (lexeme c t).rest ++ b :: w } := by
  have name := isNameRest_blank blank
  unfold lexeme at closed ⊢
  rw [startsWithDigit_blank blank]
  split
  · simp [takeWhile_blank name, dropWhile_blank name]
  · rename_i notName
    rw [if_neg notName] at closed
    split
    · exact numeric_blank blank (c :: t)
    · rename_i notNumeric
      rw [if_neg notNumeric] at closed
      split
      · rename_i quote
        rw [if_pos quote] at closed
        have ends : (spanString c t).2.1 = true := by
          by_contra opened
          exact closed (String.ofList (c :: (spanString c t).1)) (by simpa using opened)
        have longer := spanString_closed ends (b :: w)
        generalize spanString c t = split at ends longer ⊢
        obtain ⟨body, terminated, rest⟩ := split
        simp only at ends longer ⊢
        rw [longer, ends]
      · exact symbol_blank blank c t

theorem spanTrivia_append_of_ne_nil {inComment : Bool} {t : Text}
    (more : (spanTrivia inComment t).2 ≠ []) (w : Text) :
    spanTrivia inComment (t ++ w) = withRest w (spanTrivia inComment t) := by
  fun_induction spanTrivia inComment t <;> simp_all [spanTrivia, withRest]

theorem spanTrivia_blanks {w : Text} (blank : ∀ c ∈ w, Text.isBlank c = true) :
    spanTrivia false w = (w, []) := by
  induction w with
  | nil => rfl
  | cons c w ih =>
    obtain ⟨first, later⟩ := List.forall_mem_cons.mp blank
    simp [spanTrivia, first, ih later]

/-- A string without its closing quote is the last lexeme. -/
theorem rest_of_unclosed {c : Char} {t : Text} {raw : String}
    (opened : (lexeme c t).kind = .string raw false) : (lexeme c t).rest = [] := by
  unfold lexeme at opened ⊢
  split at opened
  · cases opened
  · split at opened
    · unfold numeric at opened
      split at opened
      · cases opened
      · cases opened
    · split at opened
      · rename_i notName notNumeric quote
        simp only [notName, notNumeric, quote, Bool.false_eq_true, if_false, if_true]
        injection opened with _ ends
        exact spanString_unclosed ends
      · exact absurd opened (symbol_ne_string c t raw false)

end Spans

section Scans

variable {b : Char} {w : Text}

theorem scanFrom_nil (steps offset : Nat) : scanFrom steps offset [] = [finish offset] := by
  cases steps with
  | zero => rfl
  | succ steps => rfl

theorem scanFrom_ne_nil (steps offset : Nat) (t : Text) : scanFrom steps offset t ≠ [] := by
  cases steps with
  | zero => exact List.cons_ne_nil _ _
  | succ steps =>
    rw [scanFrom]
    dsimp only
    split
    · exact List.cons_ne_nil _ _
    · exact List.cons_ne_nil _ _

/-- What is left to scan behind blanks and comments starts with the next token. -/
theorem scanFrom_cons {t skipped r : Text} {c : Char} (steps offset : Nat)
    (trivia : spanTrivia false t = (skipped, c :: r)) :
    scanFrom (steps + 1) offset t =
      ⟨(lexeme c r).kind, ⟨offset + Text.size skipped, Text.size (lexeme c r).text⟩⟩ ::
        scanFrom steps (offset + Text.size skipped + Text.size (lexeme c r).text)
          (lexeme c r).rest := by
  rw [scanFrom, trivia]

/-- The last token before the end of input stops at `stop`, and no blank there would go into it. -/
def EndsAt (ts : List Token) (stop : Nat) : Prop :=
  ∃ last, ts.dropLast.getLast? = some last ∧ last.stop = stop ∧ ∀ raw, last.kind ≠ .string raw false

theorem EndsAt.of_cons {first : Token} {ts : List Token} {stop : Nat} (some : ts ≠ [])
    (ends : EndsAt (first :: ts) stop) :
    (first.stop = stop ∧ ∀ raw, first.kind ≠ .string raw false) ∨ EndsAt ts stop := by
  obtain ⟨last, final, reaches, closed⟩ := ends
  rw [List.dropLast_cons_of_ne_nil some, List.getLast?_cons, Option.some.injEq] at final
  cases inner : ts.dropLast.getLast? with
  | none =>
    rw [inner, Option.getD_none] at final
    subst final
    exact .inl ⟨reaches, closed⟩
  | some u =>
    rw [inner, Option.getD_some] at final
    subst final
    exact .inr ⟨u, inner, reaches, closed⟩

/-- Behind a token there is nothing, or the text ends with a later one. -/
theorem EndsAt.behind {first : Token} {steps : Nat} {rest : Text}
    (ends : EndsAt (first :: scanFrom steps first.stop rest) (first.stop + Text.size rest)) :
    rest = [] ∨ EndsAt (scanFrom steps first.stop rest) (first.stop + Text.size rest) := by
  rcases ends.of_cons (scanFrom_ne_nil _ _ _) with ⟨reaches, -⟩ | later
  · left
    by_contra more
    have wide := Text.size_pos more
    omega
  · exact .inr later

/-- A token with more behind it is no open string, nor is the last one. -/
theorem EndsAt.closed {c : Char} {r : Text} {span : Span} {steps offset stop : Nat}
    (ends : EndsAt (⟨(lexeme c r).kind, span⟩ :: scanFrom steps offset (lexeme c r).rest) stop)
    (raw : String) : (lexeme c r).kind ≠ .string raw false := by
  intro opened
  rcases ends.of_cons (scanFrom_ne_nil _ _ _) with ⟨-, closed⟩ | ⟨last, final, -⟩
  · exact closed raw opened
  · rw [rest_of_unclosed opened, scanFrom_nil] at final
    cases final

/-- Blanks behind the last token are read over, and so are they behind nothing. -/
theorem scanFrom_blanks (blank : ∀ c ∈ b :: w, Text.isBlank c = true) (steps steps' offset : Nat)
    (t : Text) (enough : t.length ≤ steps) (enough' : t.length ≤ steps')
    (ends : t = [] ∨ EndsAt (scanFrom steps offset t) (offset + Text.size t)) :
    scanFrom (steps' + 1) offset (t ++ b :: w) =
      (scanFrom steps offset t).dropLast ++ [finish (offset + Text.size (t ++ b :: w))] := by
  have alone : ∀ n offset, scanFrom (n + 1) offset (b :: w) =
      [finish (offset + Text.size (b :: w))] := by
    intro n offset
    rw [scanFrom, spanTrivia_blanks blank]
  -- Token by token: behind the last one nothing is left, which is why `t` may be empty.
  induction steps generalizing steps' offset t with
  | zero =>
    obtain rfl := List.length_eq_zero_iff.mp (Nat.le_zero.mp enough)
    rw [scanFrom_nil, List.nil_append, alone]
    rfl
  | succ steps ih =>
    cases trivia : spanTrivia false t with | mk skipped rest => ?_
    have whole := spanTrivia_append false t
    rw [trivia] at whole
    dsimp only at whole
    cases rest with
    | nil =>
      have none : scanFrom (steps + 1) offset t = [finish (offset + Text.size skipped)] := by
        rw [scanFrom, trivia]
      rw [none] at ends ⊢
      -- Blanks or a comment alone have no last token.
      rcases ends with rfl | ⟨last, final, -⟩
      · rw [List.nil_append, alone]
        rfl
      · cases final
    | cons c r =>
      have more : (spanTrivia false t).2 ≠ [] := by rw [trivia]; exact List.cons_ne_nil c r
      have longer := spanTrivia_append_of_ne_nil more (b :: w)
      rw [trivia, withRest, List.cons_append] at longer
      have lex := lexeme_splits c r
      have wide := List.length_pos_iff.mpr lex.nonempty
      have length := congrArg List.length lex.whole
      have size := congrArg Text.size whole
      have parts := congrArg Text.size lex.whole
      have count := congrArg List.length whole
      simp only [List.length_append, List.length_cons] at length count
      simp only [Text.size_append] at size parts
      obtain ⟨steps', rfl⟩ := Nat.exists_eq_succ_of_ne_zero (n := steps') (by omega)
      rw [scanFrom_cons steps offset trivia] at ends ⊢
      have reached := ends.resolve_left (by rw [← whole]; simp)
      have total : offset + Text.size t = offset + Text.size skipped +
          Text.size (lexeme c r).text + Text.size (lexeme c r).rest := by omega
      rw [total] at reached
      -- What follows the token in front is shorter, and one step fewer does for it in both texts.
      have later := ih steps' (offset + Text.size skipped + Text.size (lexeme c r).text)
        (lexeme c r).rest (by omega) (by omega) reached.behind
      rw [scanFrom_cons _ offset longer, lexeme_blank (blank b List.mem_cons_self) reached.closed]
      dsimp only
      rw [later, List.dropLast_cons_of_ne_nil (scanFrom_ne_nil _ _ _), List.cons_append,
        Text.size_append, Text.size_append, ← Nat.add_assoc, ← Nat.add_assoc, total]

/-- Blanks behind the last token change no token. -/
theorem scan_append_blanks {t : Text} (ends : EndsAt (scan t) (Text.size t)) (some : w ≠ [])
    (blank : ∀ c ∈ w, Text.isBlank c = true) :
    scan (t ++ w) = (scan t).dropLast ++ [finish (Text.size (t ++ w))] := by
  cases w with
  | nil => exact absurd rfl some
  | cons b w =>
    have scanned := scanFrom_blanks blank t.length (t ++ w).length 0 t (Nat.le_refl _) (by simp)
      (.inr (by rwa [Nat.zero_add]))
    rw [Nat.zero_add] at scanned
    rw [scan, scan, ← scanned]
    simp [Nat.add_assoc]

end Scans

end Token

namespace Stream

/-- Reading goes the same way when blanks follow the last token. -/
theorem ofText_append_blanks {text w : Text}
    (ends : Token.EndsAt (Token.scan text) (Text.size text)) (some : w ≠ [])
    (blank : ∀ c ∈ w, Text.isBlank c = true) :
    (ofText (text ++ w)).rest = (ofText text).rest := by
  have before := (ofText_tokens text).1
  have after := (ofText_tokens (text ++ w)).1
  rw [Token.scan_append_blanks ends some blank, before, List.dropLast_concat] at after
  exact (List.append_left_injective _ after).symm

end Stream

end MetricQuery
