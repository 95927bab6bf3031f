import MetricQuery.Proofs.CacheKey
import MetricQuery.Proofs.TokenRange

/-!
Scanning texts that are put together from the texts of tokens. `Scans t kinds` says which kinds the
tokens of `t` have; one lemma for each class of token says how the token in front is split off,
provided that what follows cannot extend it.
-/

set_option autoImplicit false

namespace MetricQuery

namespace Token

variable {quote : Char}

theorem spanString_escape (notRaw : quote ≠ Text.backtick) (c : Char) (t : Text) :
    spanString quote ('\\' :: c :: t) =
      ('\\' :: c :: (spanString quote t).1, (spanString quote t).2) := by
  rw [spanString, if_pos ⟨rfl, notRaw⟩]

theorem spanString_plain {c : Char} (inside : c ≠ quote) (plain : c = '\\' → quote = Text.backtick)
    (t : Text) :
    spanString quote (c :: t) = (c :: (spanString quote t).1, (spanString quote t).2) := by
  have unescaped : ¬ (c = '\\' ∧ quote ≠ Text.backtick) := fun both => both.2 (plain both.1)
  rw [spanString.eq_def]
  simp only [unescaped, inside, ↓reduceIte]

theorem spanString_close (plain : quote ≠ '\\') (t : Text) :
    spanString quote (quote :: t) = ([quote], true, t) := by
  rw [spanString.eq_def]
  simp [plain]

end Token

namespace Text

theorem isQuote_iff {c : Char} : isQuote c = true ↔ c = '"' ∨ c = '\x27' ∨ c = backtick := by
  simp [isQuote, or_assoc]

/-- Characters that are taken into a string between double quotes as they stand. -/
def Quotable (s : Text) : Prop :=
  ∀ t, Token.spanString '"' (s ++ t) =
    (s ++ (Token.spanString '"' t).1, (Token.spanString '"' t).2)

namespace Quotable

theorem nil : Quotable [] := fun _ => rfl

theorem append {s t : Text} (front : Quotable s) (back : Quotable t) : Quotable (s ++ t) := by
  intro u
  rw [List.append_assoc, front, back, List.append_assoc]

theorem plain {c : Char} (notQuote : c ≠ '"') (notEscape : c ≠ '\\') : Quotable [c] := by
  intro t
  exact Token.spanString_plain notQuote (fun same => absurd same notEscape) t

theorem escaped (letter : Char) : Quotable ['\\', letter] := by
  intro t
  exact Token.spanString_escape (by decide) letter t

theorem all {s : Text} (each : ∀ c ∈ s, c ≠ '"' ∧ c ≠ '\\') : Quotable s := by
  induction s with
  | nil => exact nil
  | cons c s ih =>
    obtain ⟨first, later⟩ := List.forall_mem_cons.mp each
    exact (plain first.1 first.2).append (ih later)

end Quotable

theorem WrittenAs.quotable {c : Char} {s : Text} (written : WrittenAs c s) : Quotable s := by
  cases written with
  | named _ => exact .escaped _
  | code =>
    have digits : ∀ d ∈ Nat.toDigits 16 c.toNat, d ≠ '"' ∧ d ≠ '\\' := by
      apply forall_toDigits
      intro d
      exact ⟨Nat.digitChar_ne _ (by decide), Nat.digitChar_ne _ (by decide)⟩
    have brace : Quotable ['\x7b'] := .plain (by decide) (by decide)
    have close : Quotable ['\x7d'] := .plain (by decide) (by decide)
    exact (Quotable.escaped 'u').append (brace.append ((Quotable.all digits).append close))
  | plain notQuote notEscape => exact .plain notQuote notEscape

theorem quoteBody_quotable (t : Text) : Quotable (quoteBody t) := by
  induction t with
  | nil => exact .nil
  | cons c t ih =>
    rw [quoteBody, List.flatMap_cons]
    exact (quoteChar_writtenAs c).quotable.append ih

/-- A quoted string ends where it was meant to end, whatever it says. -/
theorem spanString_quoteBody (value rest : Text) :
    Token.spanString '"' (quoteBody value ++ '"' :: rest) =
      (quoteBody value ++ ['"'], true, rest) := by
  rw [quoteBody_quotable value, Token.spanString_close (by decide)]

end Text

namespace Token

/-- A character that starts a token, neither blank nor the mark of a comment. -/
def StartsToken (c : Char) : Prop := Text.isBlank c = false ∧ c ≠ '#'

theorem spanTrivia_of_starts {c : Char} (starts : StartsToken c) (t : Text) :
    spanTrivia false (c :: t) = ([], c :: t) := by
  rw [spanTrivia, starts.1, if_neg starts.2]
  rfl

/-- Letters and the underscore start tokens. -/
theorem startsToken_of_isNameStart {c : Char} (name : isNameStart c = true) : StartsToken c := by
  have range : 65 ≤ c.toNat ∧ c.toNat ≤ 90 ∨ 97 ≤ c.toNat ∧ c.toNat ≤ 122 ∨ c.toNat = 95 := by
    have codes : (decide (c.val ≥ 'A'.val ∧ c.val ≤ 'Z'.val) ||
        (decide (c.val ≥ 'a'.val) && decide (c.val ≤ 'z'.val)) || c == '_') = true := name
    simp only [Bool.or_eq_true, Bool.and_eq_true, decide_eq_true_eq, beq_iff_eq,
      UInt32.le_iff_toNat_le, ge_iff_le] at codes
    rcases codes with (upper | lower) | rfl
    · exact .inl upper
    · exact .inr (.inl lower)
    · exact .inr (.inr rfl)
  constructor
  · simp only [Text.isBlank, Text.blankRanges, List.any_cons, List.any_nil, Bool.or_false,
      Bool.or_eq_false_iff, Bool.and_eq_false_iff, decide_eq_false_iff_not]
    omega
  · rintro rfl
    exact absurd name (by decide)

theorem startsToken_of_isQuote {c : Char} (isQuote : Text.isQuote c = true) : StartsToken c := by
  rcases Text.isQuote_iff.mp isQuote with rfl | rfl | rfl <;> exact ⟨by decide, by decide⟩

/-- Behind a quote everything up to its closing quote is one string. -/
theorem lexeme_quote {quote : Char} (isQuote : Text.isQuote quote = true) {t body rest : Text}
    {terminated : Bool} (span : spanString quote t = (body, terminated, rest)) :
    lexeme quote t =
      ⟨.string (String.ofList (quote :: body)) terminated, quote :: body, rest⟩ := by
  have others : isNameStart quote = false ∧ quote.isDigit = false ∧ quote ≠ '.' := by
    rcases Text.isQuote_iff.mp isQuote with rfl | rfl | rfl <;> decide
  obtain ⟨notName, notDigit, notPoint⟩ := others
  have notNumeric : (quote.isDigit || (quote == '.' && startsWithDigit t)) = false := by
    simp [notDigit, notPoint]
  rw [lexeme, notName, notNumeric, isQuote, span]
  rfl

/-- The tokens of a text are of these kinds, wherever the text starts. -/
def Scans (t : Text) (kinds : List Kind) : Prop :=
  ∀ steps offset, t.length ≤ steps → (scanFrom steps offset t).map Token.kind = kinds

namespace Scans

theorem scan {t : Text} {kinds : List Kind} (scans : Scans t kinds) :
    (Token.scan t).map Token.kind = kinds :=
  scans t.length 0 (Nat.le_refl _)

theorem nil : Scans [] [.endOfInput] := by
  intro steps offset _
  cases steps <;> rfl

/-- What is split off in front is the first token. -/
theorem cons {c : Char} {t text rest : Text} {kind : Kind} {kinds : List Kind}
    (starts : StartsToken c) (split : lexeme c t = ⟨kind, text, rest⟩) (later : Scans rest kinds) :
    Scans (c :: t) (kind :: kinds) := by
  intro steps offset enough
  have lex := lexeme_splits c t
  rw [split] at lex
  have some_text := List.length_pos_iff.mpr lex.nonempty
  have longer := congrArg List.length lex.whole
  simp only [List.length_append, List.length_cons] at some_text longer enough
  -- The token takes a character at least, so the steps that are left do for the rest.
  obtain ⟨steps, rfl⟩ := Nat.exists_eq_succ_of_ne_zero (n := steps) (by omega)
  simp only [scanFrom, spanTrivia_of_starts starts, split, List.map_cons]
  rw [later steps _ (by omega)]

variable {rest : Text} {kinds : List Kind}

theorem ident {name : Text} (named : Text.IsIdentifier name)
    (ends : ∀ c ∈ rest.head?, isNameRest c = false) (later : Scans rest kinds) :
    Scans (name ++ rest) (.ident (String.ofList name) :: kinds) := by
  cases name with
  | nil => exact absurd named id
  | cons c name =>
    obtain ⟨starts, continues⟩ := named
    have stops : rest.takeWhile isNameRest = [] ∧ rest.dropWhile isNameRest = rest := by
      cases rest with
      | nil => exact ⟨rfl, rfl⟩
      | cons d rest =>
        have outside := ends d rfl
        simp [outside]
    have taken : (name ++ rest).takeWhile isNameRest = name := by
      rw [List.takeWhile_append_of_pos continues, stops.1, List.append_nil]
    have left : (name ++ rest).dropWhile isNameRest = rest := by
      rw [List.dropWhile_append_of_pos continues, stops.2]
    have split : lexeme c (name ++ rest) =
        ⟨.ident (String.ofList (c :: name)), c :: name, rest⟩ := by
      rw [lexeme, if_pos starts, taken, left]
    exact .cons (startsToken_of_isNameStart starts) split later

/-- A character that starts a token of none of the other classes. -/
structure IsSymbol (c : Char) : Prop where
  starts : StartsToken c
  name : isNameStart c = false
  digit : c.isDigit = false
  point : c ≠ '.'
  quote : Text.isQuote c = false

/-- The characters that selectors have around their labels and values. -/
theorem isSymbol_of_mem {c : Char} (found : c ∈ ['\x7b', '\x7d', ',', '=', '!']) : IsSymbol c := by
  simp only [List.mem_cons, List.not_mem_nil, or_false] at found
  rcases found with rfl | rfl | rfl | rfl | rfl <;>
    exact ⟨⟨by decide, by decide⟩, by decide, by decide, by decide, by decide⟩

theorem lexeme_symbol {c : Char} (isSymbol : IsSymbol c) (t : Text) :
    lexeme c t = symbol c t := by
  have numeric : (c.isDigit || (c == '.' && startsWithDigit t)) = false := by
    simp [isSymbol.digit, isSymbol.point]
  rw [lexeme, isSymbol.name, numeric, isSymbol.quote]
  rfl

theorem single {c : Char} (isSymbol : IsSymbol c) (alone : ∀ d ∈ rest.head?, pair? c d = none)
    (later : Scans rest kinds) : Scans (c :: rest) (Token.single c :: kinds) := by
  have split : lexeme c rest = ⟨Token.single c, [c], rest⟩ := by
    rw [lexeme_symbol isSymbol]
    cases rest with
    | nil => rfl
    | cons d rest => simp only [symbol, alone d rfl]
  exact .cons isSymbol.starts split later

theorem pair {c d : Char} {kind : Kind} (isSymbol : IsSymbol c) (found : pair? c d = some kind)
    (later : Scans rest kinds) : Scans (c :: d :: rest) (kind :: kinds) := by
  have split : lexeme c (d :: rest) = ⟨kind, [c, d], rest⟩ := by
    rw [lexeme_symbol isSymbol]
    simp only [symbol, found]
  exact .cons isSymbol.starts split later

theorem quoted (value : Text) (later : Scans rest kinds) :
    Scans (Text.quote value ++ rest)
      (.string (String.ofList (Text.quote value)) true :: kinds) := by
  have split := lexeme_quote (by decide) (Text.spanString_quoteBody value rest)
  have whole := cons (startsToken_of_isQuote (by decide)) split later
  simpa [Text.quote] using whole

end Scans

end Token

end MetricQuery
