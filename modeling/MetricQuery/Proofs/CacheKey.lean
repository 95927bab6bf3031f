import MetricQuery.Metadata.Cache
import MetricQuery.Token.Scan
import Mathlib.Data.List.Basic

/-!
Keys of cached queries. The matchers of a query go into its key as one text, their values quoted
and joined by commas. Quoting marks where a value ends, whatever stands in it, so no two queries
about identifiers share a key.
-/

set_option autoImplicit false

namespace MetricQuery

namespace Text

/-- Two texts agree up to the first character outside a class, and behind it, when they agree as a
whole. -/
theorem append_cons_inj {inside : Char → Prop} {s t u v : Text} {c d : Char}
    (front : ∀ x ∈ s, inside x) (front' : ∀ x ∈ t, inside x)
    (outside : ¬ inside c) (outside' : ¬ inside d) (same : s ++ c :: u = t ++ d :: v) :
    s = t ∧ c = d ∧ u = v := by
  induction s generalizing t with
  | nil =>
    cases t with
    | nil => simpa using same
    | cons x t =>
      have first : c = x := (List.cons.inj same).1
      have member := front' x List.mem_cons_self
      rw [← first] at member
      exact absurd member outside
  | cons x s ih =>
    cases t with
    | nil =>
      have first : x = d := (List.cons.inj same).1
      have member := front x List.mem_cons_self
      rw [first] at member
      exact absurd member outside'
    | cons y t =>
      obtain ⟨first, rest⟩ := List.cons.inj same
      have inner := ih (fun z member => front z (List.mem_cons_of_mem x member))
        (fun z member => front' z (List.mem_cons_of_mem y member)) rest
      exact ⟨by rw [first, inner.1], inner.2⟩

theorem digitChar_inj {a b : Nat} (ha : a < 16) (hb : b < 16)
    (same : Nat.digitChar a = Nat.digitChar b) : a = b := by
  have table : ∀ a < 16, ∀ b < 16, Nat.digitChar a = Nat.digitChar b → a = b := by decide
  exact table a ha b hb same

/-- Hexadecimal digits determine the number. -/
theorem toDigits_sixteen_inj {a b : Nat} (same : Nat.toDigits 16 a = Nat.toDigits 16 b) :
    a = b := by
  have several : ∀ n, 16 ≤ n → 1 < (Nat.toDigits 16 n).length := by
    intro n large
    have more := Nat.length_toDigits_pos (b := 16) (n := n / 16)
    rw [Nat.toDigits_of_base_le (by omega) large, List.length_append, List.length_singleton]
    omega
  induction a using Nat.strongRecOn generalizing b with
  | ind a ih =>
    have lengths := congrArg List.length same
    rcases Nat.lt_or_ge a 16 with small | large
    · rw [Nat.toDigits_of_lt_base small] at same lengths
      rcases Nat.lt_or_ge b 16 with small' | large'
      · rw [Nat.toDigits_of_lt_base small'] at same
        exact digitChar_inj small small' (List.cons.inj same).1
      · have longer := several b large'
        rw [← lengths, List.length_singleton] at longer
        omega
    · rcases Nat.lt_or_ge b 16 with small' | large'
      · have longer := several a large
        rw [lengths, Nat.toDigits_of_lt_base small', List.length_singleton] at longer
        omega
      · rw [Nat.toDigits_of_base_le (by omega) large,
          Nat.toDigits_of_base_le (by omega) large'] at same
        obtain ⟨front, last⟩ := List.append_inj' same rfl
        have high : a / 16 = b / 16 := ih (a / 16) (by omega) front
        have low : a % 16 = b % 16 :=
          digitChar_inj (by omega) (by omega) (List.cons.inj last).1
        omega

/-- What holds of every digit holds of the digits of a number. -/
theorem forall_toDigits {P : Char → Prop} (each : ∀ d, P (Nat.digitChar d)) (n : Nat) :
    ∀ c ∈ Nat.toDigits 16 n, P c := by
  induction n using Nat.strongRecOn with
  | ind n ih =>
    rw [Nat.toDigits_eq_if (by omega)]
    by_cases small : n < 16
    · simp only [small, ↓reduceIte, List.mem_singleton, forall_eq]
      exact each n
    · simp only [small, ↓reduceIte, List.mem_append, List.mem_singleton]
      rintro c (high | rfl)
      · exact ih (n / 16) (by omega) c high
      · exact each (n % 16)

theorem brace_notMem_toDigits (n : Nat) : ∀ c ∈ Nat.toDigits 16 n, c ≠ '\x7d' := by
  apply forall_toDigits
  intro d
  exact Nat.digitChar_ne _ (by decide)

/-- What a backslash followed by a letter stands for. -/
def namedEscape? : Char → Option Char
  | '0' => some '\x00'
  | 't' => some '\t'
  | 'r' => some '\r'
  | 'n' => some '\n'
  | '"' => some '"'
  | '\\' => some '\\'
  | _ => none

/-- The three ways in which a character is written between quotes. -/
inductive WrittenAs (c : Char) : Text → Prop
  | named {letter : Char} (stands : namedEscape? letter = some c) : WrittenAs c ['\\', letter]
  | code : WrittenAs c ('\\' :: 'u' :: '\x7b' :: (Nat.toDigits 16 c.toNat ++ ['\x7d']))
  | plain (notQuote : c ≠ '"') (notEscape : c ≠ '\\') : WrittenAs c [c]

theorem quoteChar_writtenAs (c : Char) : WrittenAs c (quoteChar c) := by
  unfold quoteChar
  split
  · rename_i same
    exact .named (by rw [same]; rfl)
  · split
    · rename_i same
      exact .named (by rw [same]; rfl)
    · split
      · rename_i same
        exact .named (by rw [same]; rfl)
      · split
        · rename_i same
          exact .named (by rw [same]; rfl)
        · split
          · rename_i same
            exact .named (by rw [same]; rfl)
          · split
            · rename_i same
              exact .named (by rw [same]; rfl)
            · split
              · exact .code
              · rename_i notQuote notEscape _
                exact .plain notQuote notEscape

/-- What is written for a character tells the character and where it ends. -/
theorem WrittenAs.append_inj {c d : Char} {s t u v : Text} (left : WrittenAs c s)
    (right : WrittenAs d t) (same : s ++ u = t ++ v) : c = d ∧ u = v := by
  cases left with
  | named stands =>
    cases right with
    | named stands' =>
      simp only [List.cons_append, List.nil_append, List.cons.injEq, true_and] at same
      rw [same.1, stands', Option.some.injEq] at stands
      exact ⟨stands.symm, same.2⟩
    | code =>
      simp only [List.cons_append, List.nil_append, List.cons.injEq, true_and] at same
      rw [same.1] at stands
      cases stands
    | plain _ notEscape =>
      simp only [List.cons_append, List.nil_append, List.cons.injEq] at same
      exact absurd same.1.symm notEscape
  | code =>
    cases right with
    | named stands' =>
      simp only [List.cons_append, List.nil_append, List.cons.injEq, true_and] at same
      rw [← same.1] at stands'
      cases stands'
    | code =>
      simp only [List.cons_append, List.append_assoc, List.nil_append, List.cons.injEq,
        true_and] at same
      have closed : ¬ '\x7d' ≠ '\x7d' := fun different => different rfl
      obtain ⟨digits, -, rest⟩ := append_cons_inj (brace_notMem_toDigits c.toNat)
        (brace_notMem_toDigits d.toNat) closed closed same
      exact ⟨Char.toNat_inj.mp (toDigits_sixteen_inj digits), rest⟩
    | plain _ notEscape =>
      simp only [List.cons_append, List.nil_append, List.cons.injEq] at same
      exact absurd same.1.symm notEscape
  | plain _ notEscape =>
    cases right with
    | named _ =>
      simp only [List.cons_append, List.nil_append, List.cons.injEq] at same
      exact absurd same.1 notEscape
    | code =>
      simp only [List.cons_append, List.nil_append, List.cons.injEq] at same
      exact absurd same.1 notEscape
    | plain _ _ => simpa using same

/-- No character is written so that it looks like the closing quote. -/
theorem WrittenAs.head_ne_quote {c : Char} {s : Text} (written : WrittenAs c s) (u v : Text) :
    s ++ u ≠ '"' :: v := by
  cases written with
  | named _ => simp
  | code => simp
  | plain notQuote _ =>
    intro same
    exact notQuote (List.cons.inj same).1

/-- The closing quote of a written string is found, and what stands before it is the string. -/
theorem quoteBody_append_inj {s t u v : Text}
    (same : quoteBody s ++ '"' :: u = quoteBody t ++ '"' :: v) : s = t ∧ u = v := by
  induction s generalizing t with
  | nil =>
    cases t with
    | nil => simpa [quoteBody] using same
    | cons d t =>
      rw [quoteBody, quoteBody, List.flatMap_cons, List.append_assoc] at same
      exact absurd same.symm ((quoteChar_writtenAs d).head_ne_quote _ _)
  | cons c s ih =>
    cases t with
    | nil =>
      rw [quoteBody, quoteBody, List.flatMap_cons, List.append_assoc] at same
      exact absurd same ((quoteChar_writtenAs c).head_ne_quote _ _)
    | cons d t =>
      rw [quoteBody, quoteBody, List.flatMap_cons, List.flatMap_cons, List.append_assoc,
        List.append_assoc] at same
      obtain ⟨first, rest⟩ := (quoteChar_writtenAs c).append_inj (quoteChar_writtenAs d) same
      obtain ⟨inner, after⟩ := ih rest
      exact ⟨by rw [first, inner], after⟩

end Text

/-- An identifier, as the scanner reads them. -/
def Text.IsIdentifier : Text → Prop
  | [] => False
  | c :: t => Token.isNameStart c = true ∧ ∀ d ∈ t, Token.isNameRest d = true

/-- Neither of the characters that start an operator is part of an identifier. -/
theorem Text.IsIdentifier.apart {t : Text} (named : IsIdentifier t) :
    ∀ c ∈ t, c ≠ '=' ∧ c ≠ '!' := by
  cases t with
  | nil => exact absurd named id
  | cons first rest =>
    obtain ⟨starts, continues⟩ := named
    intro c member
    rcases List.mem_cons.mp member with rfl | later
    · constructor
      · rintro rfl
        exact absurd starts (by decide)
      · rintro rfl
        exact absurd starts (by decide)
    · have inside := continues c later
      constructor
      · rintro rfl
        exact absurd inside (by decide)
      · rintro rfl
        exact absurd inside (by decide)

namespace Matcher

/-- The label of the matcher is an identifier, as in every matcher that is read from a query. -/
def Named (m : Matcher) : Prop := Text.IsIdentifier m.name.toList

theorem render_toList (m : Matcher) :
    m.render.toList = m.name.toList ++ (m.op.symbol.toList ++ Text.quote m.value.toList) := by
  simp only [render, String.toList_append, String.toList_ofList, List.append_assoc]

/-- An operator is told by its characters up to the quote. -/
theorem symbol_append_inj {op other : MatchOp} {s t : Text}
    (same : op.symbol.toList ++ '"' :: s = other.symbol.toList ++ '"' :: t) :
    op = other ∧ s = t := by
  cases op <;> cases other <;> simp_all [MatchOp.symbol]

theorem symbol_starts (op : MatchOp) :
    ∃ c t, op.symbol.toList = c :: t ∧ ¬ (c ≠ '=' ∧ c ≠ '!') := by
  cases op with
  | eqlSingle => exact ⟨'=', [], rfl, by decide⟩
  | neq => exact ⟨'!', ['='], rfl, by decide⟩
  | eqlRegex => exact ⟨'=', ['~'], rfl, by decide⟩
  | neqRegex => exact ⟨'!', ['~'], rfl, by decide⟩

/-- A rendered matcher tells the matcher, and where it ends. -/
theorem render_append_inj {m n : Matcher} {s t : Text} (named : m.Named) (named' : n.Named)
    (same : m.render.toList ++ s = n.render.toList ++ t) : m = n ∧ s = t := by
  simp only [render_toList, Text.quote, List.append_assoc, List.cons_append,
    List.nil_append] at same
  obtain ⟨c, u, starts, outside⟩ := symbol_starts m.op
  obtain ⟨d, v, starts', outside'⟩ := symbol_starts n.op
  have cut := same
  rw [starts, starts', List.cons_append, List.cons_append] at cut
  have names : m.name.toList = n.name.toList :=
    (Text.append_cons_inj named.apart named'.apart outside outside' cut).1
  rw [names, List.append_cancel_left_eq] at same
  obtain ⟨ops, rest⟩ := symbol_append_inj same
  obtain ⟨values, after⟩ := Text.quoteBody_append_inj rest
  refine ⟨?_, after⟩
  rw [String.toList_inj] at names values
  calc m = ⟨m.op, m.name, m.value⟩ := rfl
    _ = ⟨n.op, n.name, n.value⟩ := by rw [ops, names, values]
    _ = n := rfl

end Matcher

theorem renderMatchers_cons (m : Matcher) (ms : List Matcher) :
    (renderMatchers (m :: ms)).toList =
      m.render.toList ++ (if ms = [] then [] else ',' :: (renderMatchers ms).toList) := by
  cases ms with
  | nil => simp [renderMatchers, Text.join]
  | cons n ms => simp [renderMatchers, Text.join, String.toList_intercalate]

theorem render_ne_nil (m : Matcher) : m.render.toList ≠ [] := by
  simp [Matcher.render_toList, Text.quote]

/-- Rendering keeps lists of matchers apart, whatever their values contain. -/
theorem renderMatchers_inj {ms ns : List Matcher} (named : ∀ m ∈ ms, m.Named)
    (named' : ∀ n ∈ ns, n.Named) (same : renderMatchers ms = renderMatchers ns) : ms = ns := by
  induction ms generalizing ns with
  | nil =>
    cases ns with
    | nil => rfl
    | cons n ns =>
      have texts := congrArg String.toList same
      rw [renderMatchers_cons] at texts
      exact absurd (List.append_eq_nil_iff.mp texts.symm).1 (render_ne_nil n)
  | cons m ms ih =>
    cases ns with
    | nil =>
      have texts := congrArg String.toList same
      rw [renderMatchers_cons] at texts
      exact absurd (List.append_eq_nil_iff.mp texts).1 (render_ne_nil m)
    | cons n ns =>
      have texts := congrArg String.toList same
      rw [renderMatchers_cons, renderMatchers_cons] at texts
      obtain ⟨first, rest⟩ := Matcher.render_append_inj (named m List.mem_cons_self)
        (named' n List.mem_cons_self) texts
      have later := ih (fun x member => named x (List.mem_cons_of_mem m member))
        (fun x member => named' x (List.mem_cons_of_mem n member))
      by_cases none : ms = []
      · by_cases none' : ns = []
        · rw [first, none, none']
        · simp [none, none'] at rest
      · by_cases none' : ns = []
        · simp [none, none'] at rest
        · simp only [none, none', ↓reduceIte, List.cons.injEq, true_and] at rest
          rw [first, later (String.toList_inj.mp rest)]

namespace MetadataQuery

/-- The matchers of the query. -/
def matchers : MetadataQuery → List Matcher
  | .labelValues _ _ matchers | .series _ matchers _ => matchers.getD []
  | _ => []

/-- Every matcher of the query asks about an identifier. -/
def Named (q : MetadataQuery) : Prop := ∀ m ∈ q.matchers, m.Named

theorem map_renderMatchers_inj {ms ns : Option (List Matcher)} (named : ∀ m ∈ ms.getD [], m.Named)
    (named' : ∀ n ∈ ns.getD [], n.Named)
    (same : ms.map renderMatchers = ns.map renderMatchers) : ms = ns := by
  cases ms with
  | none =>
    cases ns with
    | none => rfl
    | some ns => cases same
  | some ms =>
    cases ns with
    | none => cases same
    | some ns =>
      rw [Option.map_some, Option.map_some, Option.some.injEq] at same
      exact congrArg some (renderMatchers_inj named named' same)

/-- Queries with one key are one query. -/
theorem key_inj {q r : MetadataQuery} (named : q.Named) (named' : r.Named)
    (same : q.key = r.key) : q = r := by
  cases q with
  | labelNames metric =>
    cases r <;> simp_all [key]
  | labelValues label metric ms =>
    cases r with
    | labelValues label' metric' ns =>
      simp only [key, CacheKey.labelValues.injEq] at same
      obtain ⟨rfl, rfl, rendered⟩ := same
      rw [map_renderMatchers_inj named named' rendered]
    | labelNames | definitions | series => cases same
  | definitions =>
    cases r <;> simp_all [key]
  | series metric ms label =>
    cases r with
    | series metric' ns label' =>
      simp only [key, CacheKey.series.injEq] at same
      obtain ⟨rfl, rendered, rfl⟩ := same
      rw [map_renderMatchers_inj named named' rendered]
    | labelNames | labelValues | definitions => cases same

end MetadataQuery

end MetricQuery
