import MetricQuery.Proofs.Scanning

/-!
String literals stand for what they were written for. Between double or single quotes, the quote
itself, backslashes and line ends are escaped; between backticks nothing is. Either way the scanner
takes the whole literal as one string, closed by its last character, and reading it gives the value
back.
-/

set_option autoImplicit false

namespace MetricQuery

namespace Text

/-- Characters between two quotes. -/
def enclosed (quote : Char) (body : Text) : Text := quote :: body ++ [quote]

/-- The characters that are escaped in a literal, and the letter that stands for each of them
behind a backslash. -/
def escapes (quote : Char) : List (Char × Char) :=
  [('\\', '\\'), (quote, quote), ('\n', 'n'), ('\t', 't'), ('\r', 'r')]

/-- How a character is written in a literal between two quotes. -/
def escapeChar (quote c : Char) : Text :=
  match (escapes quote).lookup c with
  | some letter => ['\\', letter]
  | none => [c]

/-- The literal of a value, with escapes. -/
def literal (quote : Char) (value : Text) : Text :=
  enclosed quote (value.flatMap (escapeChar quote))

/-- The literal of a value as it stands, which must hold no backtick. -/
def rawLiteral (value : Text) : Text := enclosed backtick value

variable {quote : Char}

theorem stripQuotes_enclosed (isQuote : isQuote quote = true) (body : Text) :
    stripQuotes (enclosed quote body) = (some quote, body) := by
  simp [enclosed, stripQuotes, isQuote]

theorem unquote_enclosed (isQuote : isQuote quote = true) (notRaw : quote ≠ backtick)
    (body : Text) : unquote (enclosed quote body) = unescape body := by
  simp [unquote, stripQuotes_enclosed isQuote, notRaw]

theorem unescape_plain {c : Char} (plain : c ≠ '\\') (t : Text) :
    unescape (c :: t) = c :: unescape t := by
  rw [unescape]
  simp [plain]

/-- A character is written behind a backslash, or it is neither that nor the quote. -/
theorem escapeChar_cases (quote c : Char) :
    (∃ letter, (c, letter) ∈ escapes quote ∧ escapeChar quote c = ['\\', letter]) ∨
      (c ≠ '\\' ∧ c ≠ quote ∧ escapeChar quote c = [c]) := by
  unfold escapeChar
  cases found : (escapes quote).lookup c with
  | some letter =>
    obtain ⟨before, after, whole, -⟩ := List.lookup_eq_some_iff.mp found
    exact .inl ⟨letter, by simp [whole], rfl⟩
  | none =>
    have absent := List.lookup_eq_none_iff.mp found
    exact .inr ⟨by simpa using absent ('\\', '\\') (by simp [escapes]),
      by simpa using absent (quote, quote) (by simp [escapes]), rfl⟩

/-- The way in which a character is written stands for the character. -/
theorem unescape_escapeChar (known : quote = '"' ∨ quote = '\x27') (c : Char) (t : Text) :
    unescape (escapeChar quote c ++ t) = c :: unescape t := by
  rcases escapeChar_cases quote c with ⟨letter, escaped, written⟩ | ⟨plain, -, written⟩
  · rw [written]
    simp only [escapes, List.mem_cons, Prod.mk.injEq, List.not_mem_nil, or_false] at escaped
    rcases escaped with ⟨rfl, rfl⟩ | ⟨rfl, rfl⟩ | ⟨rfl, rfl⟩ | ⟨rfl, rfl⟩ | ⟨rfl, rfl⟩
    · rfl
    · rcases known with rfl | rfl <;> rfl
    · rfl
    · rfl
    · rfl
  · rw [written]
    exact unescape_plain plain t

theorem unescape_flatMap (known : quote = '"' ∨ quote = '\x27') (value : Text) :
    unescape (value.flatMap (escapeChar quote)) = value := by
  induction value with
  | nil => rfl
  | cons c value ih => rw [List.flatMap_cons, unescape_escapeChar known, ih]

end Text

namespace Token

open Text (enclosed escapeChar literal rawLiteral backtick)

variable {quote : Char}

/-- No way of writing a character ends the string. -/
theorem spanString_escapeChar (notRaw : quote ≠ backtick) (c : Char) (t : Text) :
    spanString quote (escapeChar quote c ++ t) =
      (escapeChar quote c ++ (spanString quote t).1, (spanString quote t).2) := by
  rcases Text.escapeChar_cases quote c with ⟨letter, -, written⟩ | ⟨plain, inside, written⟩
  · rw [written]
    exact spanString_escape notRaw letter t
  · rw [written]
    exact spanString_plain inside (fun same => absurd same plain) t

theorem spanString_literal (notRaw : quote ≠ backtick) (plain : quote ≠ '\\')
    (value rest : Text) :
    spanString quote (value.flatMap (escapeChar quote) ++ quote :: rest) =
      (value.flatMap (escapeChar quote) ++ [quote], true, rest) := by
  induction value with
  | nil => exact spanString_close plain rest
  | cons c value ih =>
    rw [List.flatMap_cons, List.append_assoc, spanString_escapeChar notRaw, ih,
      List.append_assoc]

theorem spanString_rawLiteral {value : Text} (absent : backtick ∉ value) (rest : Text) :
    spanString backtick (value ++ backtick :: rest) = (value ++ [backtick], true, rest) := by
  induction value with
  | nil => exact spanString_close (by decide) rest
  | cons c value ih =>
    obtain ⟨first, later⟩ := List.ne_and_not_mem_of_not_mem_cons absent
    rw [List.cons_append, spanString_plain first.symm (fun _ => rfl), ih later]
    rfl

/-- The tokens of a text that is one string with both its quotes. -/
def wholeString (t : Text) : List Token :=
  [⟨.string (String.ofList t) true, ⟨0, Text.size t⟩⟩, finish (Text.size t)]

/-- Where the scanner takes all that follows the opening quote, there is one token. -/
theorem scan_enclosed (isQuote : Text.isQuote quote = true) {body : Text}
    (closes : spanString quote (body ++ [quote]) = (body ++ [quote], true, [])) :
    scan (enclosed quote body) = wholeString (enclosed quote body) := by
  have split := lexeme_quote isQuote closes
  have shape : enclosed quote body = quote :: (body ++ [quote]) := rfl
  rw [scan, shape, List.length_cons, scanFrom,
    spanTrivia_of_starts (startsToken_of_isQuote isQuote)]
  simp only [split, wholeString, Text.size_nil, Nat.zero_add, List.length_append,
    List.length_singleton]
  rfl

/-- A value written as a literal is one string for the scanner, and it is read back as it was:
between double or single quotes with its escapes, and between backticks as it stands. -/
theorem scan_literal (value : Text) :
    (∀ quote, quote = '"' ∨ quote = '\x27' →
      scan (literal quote value) = wholeString (literal quote value) ∧
        Text.unquote (literal quote value) = value) ∧
      (backtick ∉ value →
        scan (rawLiteral value) = wholeString (rawLiteral value) ∧
          Text.unquote (rawLiteral value) = value) := by
  constructor
  · intro quote known
    have isQuote : Text.isQuote quote = true := by
      rcases known with rfl | rfl <;> rfl
    have different : quote ≠ backtick ∧ quote ≠ '\\' := by
      rcases known with rfl | rfl <;> decide
    constructor
    · exact scan_enclosed isQuote (spanString_literal different.1 different.2 value [])
    · rw [literal, Text.unquote_enclosed isQuote different.1, Text.unescape_flatMap known]
  · intro absent
    constructor
    · exact scan_enclosed rfl (spanString_rawLiteral absent [])
    · have isQuote : Text.isQuote backtick = true := rfl
      simp [rawLiteral, Text.unquote, Text.stripQuotes_enclosed isQuote]

/-- A value that holds both quotes and ends in a backslash. -/
theorem scan_literal_tricky :
    let value := "\\\"\x27\n\\".toList
    (scan (literal '\x27' value)).map Token.kind =
        [.string "\x27\\\\\"\\\x27\\n\\\\\x27" true, .endOfInput] ∧
      Text.unquote (literal '\x27' value) = value ∧
      backtick ∉ value ∧ Text.unquote (rawLiteral value) = value := by
  intro value
  have absent : backtick ∉ value := by decide
  obtain ⟨escaped, raw⟩ := scan_literal value
  obtain ⟨scanned, read⟩ := escaped '\x27' (.inr rfl)
  refine ⟨?_, read, absent, (raw absent).2⟩
  rw [scanned]
  rfl

end Token

end MetricQuery
