import MetricQuery.Proofs.Selector
import MetricQuery.Proofs.StringLiterals

/-!
Which values a rendered matcher keeps. Rendering writes hidden characters as zeros and code points,
but these are no escapes of a literal: whoever reads the matcher finds them as they were written.
So a value comes back from a rendered matcher, and from a selector of series, exactly when its only
hidden characters are tabs and line ends.
-/

set_option autoImplicit false

namespace MetricQuery

namespace Text

/-- Whether a character is read back from a quoted string: it shows, or a letter stands for it. -/
def isLegible (c : Char) : Bool := !isHidden c || c == '\t' || c == '\r' || c == '\n'

/-- Nothing hidden stands in the text but tabs and line ends. -/
def Legible (t : Text) : Prop := ∀ c ∈ t, isLegible c = true

instance (t : Text) : Decidable (Legible t) :=
  List.decidableBAll (fun c => isLegible c = true) t

theorem legible_cons {c : Char} {t : Text} :
    Legible (c :: t) ↔ isLegible c = true ∧ Legible t :=
  List.forall_mem_cons

theorem unescape_quoteChar {c : Char} (legible : isLegible c = true) (t : Text) :
    unescape (quoteChar c ++ t) = c :: unescape t := by
  by_cases named : c ∈ ['\t', '\r', '\n', '"', '\\']
  · simp only [List.mem_cons, List.not_mem_nil, or_false] at named
    rcases named with rfl | rfl | rfl | rfl | rfl <;> rfl
  · simp only [List.mem_cons, List.not_mem_nil, or_false, not_or] at named
    obtain ⟨tab, carriage, line, double, plain⟩ := named
    have shown : isHidden c = false := by simpa [isLegible, tab, carriage, line] using legible
    have notZero : c ≠ '\x00' := by
      rintro rfl
      exact absurd shown (by decide)
    have alone : quoteChar c = [c] := by
      simp [quoteChar, notZero, tab, carriage, line, double, plain, shown]
    rw [alone]
    exact unescape_plain plain t

/-- A character that is written as a zero or a code point leaves its backslash behind. -/
theorem unescape_quoteChar_hidden {c : Char} (hidden : isLegible c = false) (t : Text) :
    ∃ more, unescape (quoteChar c ++ t) = '\\' :: more := by
  simp only [isLegible, Bool.or_eq_false_iff, Bool.not_eq_false', beq_eq_false_iff_ne] at hidden
  obtain ⟨⟨⟨hidden, tab⟩, carriage⟩, line⟩ := hidden
  have others : c ≠ '"' ∧ c ≠ '\\' := by
    constructor
    · rintro rfl
      exact absurd hidden (by decide)
    · rintro rfl
      exact absurd hidden (by decide)
  by_cases zero : c = '\x00'
  · rw [zero]
    exact ⟨'0' :: unescape t, rfl⟩
  · have code : quoteChar c =
        '\\' :: 'u' :: ('\x7b' :: (Nat.toDigits 16 c.toNat ++ ['\x7d'])) := by
      simp [quoteChar, zero, tab, carriage, line, others, hidden]
    rw [code]
    exact ⟨'u' :: unescape ('\x7b' :: (Nat.toDigits 16 c.toNat ++ ['\x7d']) ++ t), rfl⟩

theorem unescape_quoteBody_iff (value : Text) :
    unescape (quoteBody value) = value ↔ Legible value := by
  induction value with
  | nil => exact ⟨fun _ _ member => absurd member List.not_mem_nil, fun _ => rfl⟩
  | cons c value ih =>
    rw [legible_cons, quoteBody, List.flatMap_cons]
    cases shown : isLegible c with
    | true =>
      rw [unescape_quoteChar shown, List.cons.injEq, ← quoteBody, ih]
      simp
    | false =>
      obtain ⟨more, read⟩ := unescape_quoteChar_hidden shown (value.flatMap quoteChar)
      have other : c ≠ '\\' := by
        rintro rfl
        exact absurd shown (by decide)
      simp [read, other.symm]

/-- A quoted string stands for what was quoted exactly when that is legible. -/
theorem unquote_quote_iff (value : Text) : unquote (quote value) = value ↔ Legible value := by
  have body : unquote (quote value) = unescape (quoteBody value) :=
    unquote_enclosed rfl (by decide) (quoteBody value)
  rw [body, unescape_quoteBody_iff]

end Text

/-- The matcher that a node is read as is the one it was written for if the value is legible, and
another one otherwise. -/
theorem Matcher.ReadsAs.eq_iff {text : Text} {m : Matcher} {n : Node} (reads : m.ReadsAs text n) :
    ofNode text n = m ↔ Text.Legible m.value.toList := by
  have values : ofNode text n = m ↔ (ofNode text n).value = m.value := by
    constructor
    · exact congrArg Matcher.value
    · intro same
      calc ofNode text n
        _ = ⟨(ofNode text n).op, (ofNode text n).name, (ofNode text n).value⟩ := rfl
        _ = ⟨m.op, m.name, m.value⟩ := by rw [reads.op, reads.name, same]
        _ = m := rfl
  rw [values, reads.value, ← Text.unquote_quote_iff, ← String.toList_inj, String.toList_ofList]

namespace SyntaxTree

/-- The tree of a selector of series is one selector, which is read as its metric and matchers. -/
theorem exists_readsSelector {metric : String} {ms : List Matcher}
    (isMetric : metric = "" ∨ IsMetricName metric) (some_matcher : ms ≠ [])
    (named : ∀ m ∈ ms, m.Named) :
    let t := parse (seriesSelector metric (some ms)).toList
    ∃ selector, t.root.children = [.wrap .expr selector] ∧
      Parser.ReadsSelector t.text metric ms selector := by
  obtain ⟨ts, scanned, -, -, whole, -⟩ := exists_tokens (seriesSelector metric (some ms)).toList
  have written := scan_seriesSelector isMetric some_matcher named
  rw [scanned, List.map_append] at written
  have kinds := List.append_cancel_right written
  have all : ∀ t ∈ ts, t.Reads (seriesSelector metric (some ms)).toList := by
    intro t member
    apply Token.scan_reads
    rw [scanned]
    exact List.mem_append_left _ member
  obtain ⟨selector, read, reads⟩ :=
    Parser.query_selector (s := ⟨ts, Text.size (seriesSelector metric (some ms)).toList, 0⟩)
      isMetric some_matcher all ⟨ts, (List.append_nil ts).symm, kinds⟩
      (Text.size (seriesSelector metric (some ms)).toList)
  refine ⟨selector, ?_, reads⟩
  rw [whole, read]
  rfl

/-- A rendered matcher says its value again exactly when the value is legible, and so does every
matcher of a selector of series when the selector is parsed. -/
theorem parse_seriesSelector_legible (metric : String) (ms : List Matcher) :
    (∀ m ∈ ms, ∃ literal,
      m.render.toList = m.name.toList ++ m.op.symbol.toList ++ literal ∧
        (Text.unquote literal = m.value.toList ↔ Text.Legible m.value.toList)) ∧
      (metric = "" ∨ IsMetricName metric → ms ≠ [] → (∀ m ∈ ms, m.Named) →
        let t := parse (seriesSelector metric (some ms)).toList
        ∃ expr selector, t.root.children = [expr] ∧ expr.children = [selector] ∧
          List.Forall₂
            (fun m n => Matcher.ofNode t.text n = m ↔ Text.Legible m.value.toList)
            ms selector.matcherNodes) := by
  constructor
  · intro m _
    refine ⟨Text.quote m.value.toList, ?_, Text.unquote_quote_iff m.value.toList⟩
    rw [m.render_toList, List.append_assoc]
  · intro isMetric some_matcher named
    obtain ⟨selector, top, reads⟩ := exists_readsSelector isMetric some_matcher named
    exact ⟨_, selector, top, rfl, reads.matchers.imp fun m n same => same.eq_iff⟩

/-- Of two matchers the one with an accent is read as another one, and the other is kept. -/
theorem parse_seriesSelector_legible_accent :
    let accented : Matcher := ⟨.eqlSingle, "city", "e\u0301"⟩
    let escaped : Matcher := ⟨.neq, "path", "a\t\"\\"⟩
    let t := parse (seriesSelector "up" (some [accented, escaped])).toList
    IsMetricName "up" ∧ (∀ m ∈ [accented, escaped], m.Named) ∧
      ∃ expr selector first second, t.root.children = [expr] ∧ expr.children = [selector] ∧
        selector.matcherNodes = [first, second] ∧
        Matcher.ofNode t.text first ≠ accented ∧ Matcher.ofNode t.text second = escaped := by
  intro accented escaped t
  have isMetric : IsMetricName "up" :=
    ⟨⟨by decide, by rw [← List.all_eq_true]; decide⟩, by decide⟩
  have named : ∀ m ∈ [accented, escaped], m.Named := by
    simp only [accented, escaped, List.forall_mem_cons]
    exact ⟨⟨by decide, by rw [← List.all_eq_true]; decide⟩,
      ⟨by decide, by rw [← List.all_eq_true]; decide⟩, by simp⟩
  obtain ⟨expr, selector, top, inner, kept⟩ :=
    (parse_seriesSelector_legible "up" [accented, escaped]).2 (.inr isMetric)
      (List.cons_ne_nil _ _) named
  obtain ⟨first, others, changed, later, nodes⟩ := List.forall₂_cons_left_iff.mp kept
  obtain ⟨second, others, same, last, rfl⟩ := List.forall₂_cons_left_iff.mp later
  obtain rfl := List.forall₂_nil_left_iff.mp last
  refine ⟨isMetric, named, expr, selector, first, second, top, inner, nodes, ?_, ?_⟩
  · exact fun read => absurd (changed.mp read) (by decide)
  · exact same.mpr (by decide)

/-- An accent on its own is written as a code point, and the matcher that is read asks for the
written form. -/
theorem render_accent_changes :
    let m : Matcher := ⟨.eqlSingle, "city", "e\u0301"⟩
    let t := parse (seriesSelector "up" (some [m])).toList
    m.render = "city=\"e\\u\x7b301\x7d\"" ∧
      Text.unquote "\"e\\u\x7b301\x7d\"".toList ≠ m.value.toList ∧
      (t.nodes.filter (·.kind == .labelMatcher)).map (Matcher.ofNode t.text) =
        [⟨.eqlSingle, "city", "e\\u\x7b301\x7d"⟩] := by
  decide +kernel

end SyntaxTree

end MetricQuery
