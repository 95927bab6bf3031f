import MetricQuery.Proofs.EditRange
import MetricQuery.Proofs.Selector
import MetricQuery.Proofs.StringLiterals

/-!
Quotes that are stripped, and quotes that the scanner saw. Stripping looks at the last character of
a string and at nothing before it. That is the closing quote if the scanner found one. A string
that is still open ends in its quote only if a backslash hides the quote, and then it looks closed:
the hidden quote is stripped off, and the value ends in the backslash.
-/

set_option autoImplicit false

namespace MetricQuery

namespace Text

/-- What stands behind the inside of a string: its quote, if it is closed. -/
def closing (quote : Char) (terminated : Bool) : Text := if terminated then [quote] else []

/-- What the inside of a string stands for; between backticks nothing is escaped. -/
def valueOf (quote : Char) (inside : Text) : Text :=
  if quote = backtick then inside else unescape inside

/-- An open string ends in its quote, which a backslash hides. -/
def LooksClosed (quote : Char) (inside : Text) (terminated : Bool) : Prop :=
  terminated = false ∧ ['\\', quote] <:+ inside

/-- A text at whose end no backslash waits for the character that it hides. -/
def Settled (t : Text) : Prop := ∀ more, unescape (t ++ more) = unescape t ++ unescape more

theorem unescape_escape (c : Char) (t : Text) :
    unescape ('\\' :: c :: t) = unescape ['\\', c] ++ unescape t := by
  have alone : unescape ([] : Text) = [] := rfl
  rw [unescape.eq_def, unescape.eq_def ['\\', c]]
  simp only [alone, List.append_nil]

namespace Settled

theorem nil : Settled [] := fun _ => rfl

theorem plain {c : Char} {t : Text} (notEscape : c ≠ '\\') (settled : Settled t) :
    Settled (c :: t) := by
  intro more
  rw [List.cons_append, unescape_plain notEscape, settled, unescape_plain notEscape,
    List.cons_append]

theorem escape {c : Char} {t : Text} (settled : Settled t) : Settled ('\\' :: c :: t) := by
  intro more
  rw [List.cons_append, List.cons_append, unescape_escape, settled, unescape_escape c t,
    List.append_assoc]

end Settled

theorem unescape_quote {quote : Char} (known : quote = '"' ∨ quote = '\x27') :
    unescape ['\\', quote] = [quote] := by
  rcases known with rfl | rfl
  · rfl
  · rfl

end Text

namespace Token

open Text (closing valueOf LooksClosed Settled backtick)

variable {quote : Char}

/-- A string ends where its quote was found. -/
theorem spanString_closing {t : Text} (closed : (spanString quote t).2.1 = true) :
    ∃ inside, (spanString quote t).1 = inside ++ [quote] := by
  fun_induction spanString quote t with
  | case1 => cases closed
  | case2 => cases closed
  | case3 c escapes d r body terminated rest split ih =>
    rw [split] at ih
    obtain ⟨inside, same⟩ := ih closed
    exact ⟨c :: d :: inside, congrArg (c :: d :: ·) same⟩
  | case4 t plain => exact ⟨[], rfl⟩
  | case5 c t plain other body terminated rest split ih =>
    rw [split] at ih
    obtain ⟨inside, same⟩ := ih closed
    exact ⟨c :: inside, congrArg (c :: ·) same⟩

/-- A string without its closing quote ends in that character only behind a backslash. -/
theorem spanString_open {t : Text} (plain : quote ≠ '\\')
    (opened : (spanString quote t).2.1 = false)
    (last : (spanString quote t).1.getLast? = some quote) :
    quote ≠ backtick ∧
      ∃ front, (spanString quote t).1 = front ++ ['\\', quote] ∧ Settled front := by
  fun_induction spanString quote t with
  | case1 => cases last
  | case2 c escapes =>
    cases last
    exact absurd escapes.1 plain
  | case3 c escapes d r body terminated rest split ih =>
    rw [split] at ih
    obtain ⟨rfl, notRaw⟩ := escapes
    refine ⟨notRaw, ?_⟩
    cases body with
    | nil =>
      -- The hidden character is the last one.
      cases last
      exact ⟨[], rfl, .nil⟩
    | cons b body =>
      obtain ⟨-, front, same, settled⟩ := ih opened (by simpa using last)
      exact ⟨'\\' :: d :: front, congrArg ('\\' :: d :: ·) same, settled.escape⟩
  | case4 => cases opened
  | case5 c t notEscape other body terminated rest split ih =>
    rw [split] at ih
    cases body with
    | nil =>
      cases last
      exact absurd rfl other
    | cons b body =>
      obtain ⟨notRaw, front, same, settled⟩ := ih opened (by simpa using last)
      have notBackslash : c ≠ '\\' := fun isBackslash => notEscape ⟨isBackslash, notRaw⟩
      exact ⟨notRaw, c :: front, congrArg (c :: ·) same, settled.plain notBackslash⟩

end Token

namespace Text

variable {quote : Char} {inside body : Text}

theorem unquote_of_stripQuotes {literal : Text}
    (stripped : stripQuotes literal = (some quote, body)) :
    unquote literal = valueOf quote body := by
  rw [unquote, stripped]
  rfl

/-- An open string loses its last character exactly if that is its quote. -/
theorem stripQuotes_open (isQuote : isQuote quote = true) (inside : Text) :
    stripQuotes (quote :: inside) =
      (some quote, if inside.getLast? = some quote then inside.dropLast else inside) := by
  rw [stripQuotes, if_pos isQuote]

/-- How the quotes of a string are stripped, given what the scanner found between them. -/
structure Stripped (raw : Text) (terminated : Bool) (quote : Char) (inside : Text) : Prop where
  quoted : isQuote quote = true
  whole : raw = quote :: (inside ++ closing quote terminated)
  opening : (stripQuotes raw).1 = some quote
  between : (stripQuotes raw).2 = inside ↔ ¬ LooksClosed quote inside terminated
  value : unquote raw = valueOf quote inside ↔ ¬ LooksClosed quote inside terminated
  /-- The hidden quote is lost, and the backslash in front of it stands for itself. -/
  cut : LooksClosed quote inside terminated → ∃ front, inside = front ++ ['\\', quote] ∧
    (stripQuotes raw).2 = front ++ ['\\'] ∧
      valueOf quote inside = unescape front ++ [quote] ∧ unquote raw = unescape front ++ ['\\']

namespace Stripped

/-- Where nothing looks closed, what is stripped are the quotes. -/
theorem of_kept {raw : Text} {terminated : Bool} (isQuote : isQuote quote = true)
    (whole : raw = quote :: (inside ++ closing quote terminated))
    (stripped : stripQuotes raw = (some quote, inside))
    (apart : ¬ LooksClosed quote inside terminated) : Stripped raw terminated quote inside := by
  refine ⟨isQuote, whole, ?_, ?_, ?_, fun looks => absurd looks apart⟩
  · rw [stripped]
  · rw [stripped]
    exact iff_of_true rfl apart
  · exact iff_of_true (unquote_of_stripQuotes stripped) apart

theorem closed (isQuote : Text.isQuote quote = true) (inside : Text) :
    Stripped (enclosed quote inside) true quote inside :=
  of_kept isQuote rfl (stripQuotes_enclosed isQuote inside) fun looks => nomatch looks.1

/-- An open string that does not end in its quote. -/
theorem unclosed (isQuote : Text.isQuote quote = true) (other : inside.getLast? ≠ some quote) :
    Stripped (quote :: inside) false quote inside := by
  refine of_kept isQuote (by simp [closing]) ?_ ?_
  · rw [stripQuotes_open isQuote, if_neg other]
  · rintro ⟨-, front, rfl⟩
    exact other (by simp)

/-- An open string that ends in its quote behind a backslash. -/
theorem hidden (isQuote : Text.isQuote quote = true) (notRaw : quote ≠ backtick) {front : Text}
    (settled : Settled front) :
    Stripped (quote :: (front ++ ['\\', quote])) false quote (front ++ ['\\', quote]) := by
  have known : quote = '"' ∨ quote = '\x27' := by
    rcases isQuote_iff.mp isQuote with double | single | raw
    · exact .inl double
    · exact .inr single
    · exact absurd raw notRaw
  have looks : LooksClosed quote (front ++ ['\\', quote]) false :=
    ⟨rfl, List.suffix_append front ['\\', quote]⟩
  have stripped : stripQuotes (quote :: (front ++ ['\\', quote])) =
      (some quote, front ++ ['\\']) := by
    rw [stripQuotes_open isQuote, if_pos (by simp)]
    simp
  have meant : valueOf quote (front ++ ['\\', quote]) = unescape front ++ [quote] := by
    rw [valueOf, if_neg notRaw, settled, unescape_quote known]
  have read : unquote (quote :: (front ++ ['\\', quote])) = unescape front ++ ['\\'] := by
    rw [unquote_of_stripQuotes stripped, valueOf, if_neg notRaw, settled]
    rfl
  refine ⟨isQuote, by simp [closing], ?_, ?_, ?_, fun _ => ⟨front, rfl, ?_, meant, read⟩⟩
  · rw [stripped]
  · rw [stripped]
    exact iff_of_false (by simp) (not_not_intro looks)
  · rw [read, meant]
    refine iff_of_false ?_ (not_not_intro looks)
    intro same
    have backslash : '\\' = quote := by simpa using same
    rcases known with rfl | rfl
    · cases backslash
    · cases backslash
  · rw [stripped]

end Stripped

/-- Whatever follows an opening quote: the scanner and the stripping differ only on an open string
that looks closed. -/
theorem stripped_span (isQuote : isQuote quote = true) (t : Text) :
    ∃ inside, Stripped (quote :: (Token.spanString quote t).1) (Token.spanString quote t).2.1
      quote inside := by
  have plain : quote ≠ '\\' := by
    rintro rfl
    cases isQuote
  cases terminated : (Token.spanString quote t).2.1 with
  | true =>
    obtain ⟨inside, same⟩ := Token.spanString_closing terminated
    rw [same]
    exact ⟨inside, .closed isQuote inside⟩
  | false =>
    by_cases last : (Token.spanString quote t).1.getLast? = some quote
    · obtain ⟨notRaw, front, same, settled⟩ := Token.spanString_open plain terminated last
      rw [same]
      exact ⟨_, .hidden isQuote notRaw settled⟩
    · exact ⟨_, .unclosed isQuote last⟩

end Text

/-- The literal of a string covers its token and reads like it. -/
theorem SyntaxTree.literal_token {text : Text} {literal : Node}
    (member : literal ∈ (parse text).nodes) (isLiteral : literal.kind = .stringLiteral) :
    ∃ t ∈ Token.scan text, ∃ raw terminated, t.kind = .string raw terminated ∧
      literal.start = t.start ∧ literal.stop = t.stop ∧ literal.text text = raw := by
  obtain ⟨s, leads, more, stands, same⟩ := (parse_arises text literal member).token
    (by rw [isLiteral]; rfl) (by simp [isLiteral]) (by simp [isLiteral])
  rw [isLiteral] at stands same
  obtain ⟨raw, terminated, string⟩ := NodeKind.exists_string stands
  have scanned := Stream.mem_scan_of_ofText text (leads.current_mem more)
  have reads := Token.scan_reads text s.current scanned
  have inner : s.current.kind ≠ .endOfInput := by
    rw [Stream.kind] at string
    simp [string]
  have spelled := reads.leaf_text inner .stringLiteral
  have wide := Text.le_of_slice? (reads inner)
  refine ⟨s.current, scanned, raw, terminated, string, ?_, ?_, ?_⟩
  · rw [same]
    rfl
  · rw [same]
    exact Nat.max_eq_left wide
  · rw [same]
    exact spelled.trans (congrArg Token.Kind.text string)

namespace Token

open Text (Stripped)

/-- The quotes stripped from a string are the ones that the scanner found, and its value is that of
what stands between them, unless it is an open string that looks closed. The value of a matcher is
what is left of such a token. -/
theorem scan_stripped (text : Text) :
    (∀ t ∈ scan text, ∀ raw terminated, t.kind = .string raw terminated →
      ∃ quote inside, Stripped raw.toList terminated quote inside) ∧
      ∀ n ∈ (SyntaxTree.parse text).nodes, ∀ literal, n.child? .stringLiteral = some literal →
        ∃ t ∈ scan text, ∃ raw terminated, t.kind = .string raw terminated ∧
          literal.start = t.start ∧ literal.stop = t.stop ∧ literal.text text = raw ∧
          n.rawValue text = String.ofList (Text.stripQuotes raw.toList).2 := by
  constructor
  · intro t member raw terminated string
    have inner : t.kind ≠ .endOfInput := by simp [string]
    obtain ⟨c, r, same⟩ := scanFrom_kind _ _ _ t member inner
    have found := same.symm.trans string
    obtain ⟨isQuote, -⟩ := isQuote_of_lexeme found
    obtain ⟨inside, stripped⟩ := Text.stripped_span isQuote r
    rw [lexeme_quote isQuote rfl] at found
    cases found
    rw [String.toList_ofList]
    exact ⟨c, inside, stripped⟩
  · intro n member literal child
    have below := Node.mem_preorder_of_child member (List.mem_of_find?_eq_some child)
    obtain ⟨t, scanned, raw, terminated, string, start, stop, spelled⟩ :=
      SyntaxTree.literal_token below (Node.kind_of_child? child)
    refine ⟨t, scanned, raw, terminated, string, start, stop, spelled, ?_⟩
    rw [Node.rawValue, child, ← spelled]

/-- A closed string that ends in a hidden quote keeps it, and an open one loses it. -/
theorem scan_stripped_hiddenQuotes :
    let text := "\x7ba=\x27\\\x27\x27,b=\"c\\\"".toList
    let closed : Token := ⟨.string "\x27\\\x27\x27" true, ⟨3, 4⟩⟩
    let opened : Token := ⟨.string "\"c\\\"" false, ⟨10, 4⟩⟩
    closed ∈ scan text ∧ opened ∈ scan text ∧
      Text.unquote closed.kind.text.toList = Text.valueOf '\x27' ['\\', '\x27'] ∧
      Text.unquote opened.kind.text.toList ≠ Text.valueOf '"' ['c', '\\', '"'] ∧
      ∃ n ∈ (SyntaxTree.parse text).nodes, ∃ literal, n.child? .stringLiteral = some literal ∧
        n.rawValue text = "c\\" := by
  intro text closed opened
  have first : closed ∈ scan text := by decide +kernel
  have second : opened ∈ scan text := by decide +kernel
  obtain ⟨strings, literals⟩ := scan_stripped text
  refine ⟨first, second, ?_, ?_, ?_⟩
  · obtain ⟨quote, inside, stripped⟩ := strings closed first _ _ rfl
    obtain ⟨rfl, same⟩ := List.cons.inj stripped.whole
    have between : inside = ['\\', '\x27'] :=
      (List.append_cancel_right (same : ['\\', '\x27'] ++ ['\x27'] = _)).symm
    subst between
    exact stripped.value.mpr fun looks => nomatch looks.1
  · obtain ⟨quote, inside, stripped⟩ := strings opened second _ _ rfl
    obtain ⟨rfl, same⟩ := List.cons.inj stripped.whole
    have between : inside = ['c', '\\', '"'] :=
      (List.append_cancel_right (same : ['c', '\\', '"'] ++ [] = _)).symm
    subst between
    exact fun kept => stripped.value.mp kept ⟨rfl, ['c'], rfl⟩
  · have found : (SyntaxTree.parse text).nodes.any (fun n =>
        (n.child? .stringLiteral).any fun literal => literal.start == 10) = true := by
      decide +kernel
    obtain ⟨n, member, has⟩ := List.any_eq_true.mp found
    cases child : n.child? .stringLiteral with
    | none =>
      rw [child] at has
      cases has
    | some literal =>
      rw [child, Option.any_some, beq_iff_eq] at has
      obtain ⟨t, scanned, raw, terminated, string, start, -, -, value⟩ :=
        literals n member literal child
      have whole : (scan text).filter (·.start == 10) = [opened] := by decide +kernel
      have only : t ∈ (scan text).filter (·.start == 10) :=
        List.mem_filter.mpr ⟨scanned, by simpa using start.symm.trans has⟩
      rw [whole, List.mem_singleton] at only
      subst only
      cases string
      exact ⟨n, member, literal, child, value⟩

/-- A value that is being typed, with a quote in it as its last character so far: an open string is
stripped of more than its opening quote, and the value ends in a backslash instead of the quote. -/
theorem stripQuotes_hidden_end :
    let text := "\x7ba=\"abc\\\"".toList
    let t := SyntaxTree.parse text
    (scan text).map Token.kind =
        [.leftBrace, .ident "a", .eq, .string "\"abc\\\"" false, .endOfInput] ∧
      Text.stripQuotes "\"abc\\\"".toList ≠ (some '"', "abc\\\"".toList) ∧
      Text.unquote "\"abc\\\"".toList = "abc\\".toList ∧
      (t.nodes.filter (·.kind == .labelMatcher)).map (Node.rawValue text) = ["abc\\"] ∧
      (t.nodes.filter (·.kind == .labelMatcher)).map (Matcher.ofNode text) =
        [⟨.eqlSingle, "a", "abc\\"⟩] := by
  decide +kernel

end Token

end MetricQuery
