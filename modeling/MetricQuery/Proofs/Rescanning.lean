import MetricQuery.Proofs.Durations
import MetricQuery.Proofs.Scanning
import MetricQuery.Proofs.Tiling
import MetricQuery.Proofs.TrailingBlanks

/-!
Scanning again. A token is read from what it covers and from a little of what follows it, and the
little decides nothing that the end of the text or a blank would not decide the same way: a text
that is cut off behind a token has the tokens up to there, and the tokens of a text, written down
with blanks between them, are read again.
-/

set_option autoImplicit false

namespace MetricQuery

namespace Text

/-- Texts one behind another, with blanks between neighbours. -/
inductive Joined : List Text → Text → Prop
  | none : Joined [] []
  | one (t : Text) : Joined [t] t
  | cons {t u gap rest : Text} {us : List Text} (wide : gap ≠ [])
      (blank : ∀ c ∈ gap, isBlank c = true) (later : Joined (u :: us) rest) :
      Joined (t :: u :: us) (t ++ (gap ++ rest))

end Text

namespace Token

/-- A first part of a text that takes in the word at its start as a whole, if a letter or an
underscore starts it. -/
structure CutsFrom (cut rest : Text) : Prop where
  front : cut <+: rest
  word : ∀ c ∈ cut.head?, c.isDigit = false → cut.takeWhile isWord = rest.takeWhile isWord

theorem CutsFrom.nil (rest : Text) : CutsFrom [] rest := ⟨List.nil_prefix, by simp⟩

theorem head?_of_front {cut rest : Text} (front : cut <+: rest) :
    ∀ c ∈ cut.head?, c ∈ rest.head? := by
  obtain ⟨left, rfl⟩ := front
  cases cut with
  | nil => simp
  | cons c cut => simp

section Spans

variable {cut t : Text}

/-- A run of characters of a class is the same run wherever what follows it is cut off. -/
theorem takeWhile_cut {p : Char → Bool} (front : cut <+: t.dropWhile p) :
    (t.takeWhile p ++ cut).takeWhile p = t.takeWhile p ∧
      (t.takeWhile p ++ cut).dropWhile p = cut := by
  have inside : ∀ c ∈ t.takeWhile p, p c = true := List.all_eq_true.mp List.all_takeWhile
  have ends : ∀ c ∈ cut.head?, p c = false := by
    intro c first
    have outside := List.head?_dropWhile_not p t
    rw [head?_of_front front c first] at outside
    simpa using outside
  exact ⟨takeWhile_run inside ends, dropWhile_run inside ends⟩

theorem spanFraction_cut (front : cut <+: (spanFraction t).2) :
    spanFraction ((spanFraction t).1 ++ cut) = ((spanFraction t).1, cut) := by
  unfold spanFraction at front ⊢
  split at front
  · obtain ⟨taken, left⟩ := takeWhile_cut front
    simp [taken, left]
  · rename_i notPoint
    obtain ⟨left, rfl⟩ := front
    split
    · rename_i r same
      exact absurd (congrArg (· ++ left) same) (notPoint (r ++ left))
    · rfl

theorem takeWhile_nil_of_front {p : Char → Bool} (front : cut <+: t) (none : t.takeWhile p = []) :
    cut.takeWhile p = [] := by
  obtain ⟨left, rfl⟩ := front
  cases cut with
  | nil => rfl
  | cons c cut =>
    by_cases goes : p c = true
    · simp [goes] at none
    · simp [goes]

theorem spanExponent_signed {mark sign : Char} {r : Text} (isMark : mark = 'e' ∨ mark = 'E')
    (isSign : sign = '+' ∨ sign = '-') (some_digit : r.takeWhile Char.isDigit ≠ []) :
    spanExponent (mark :: sign :: r) =
      (mark :: sign :: r.takeWhile Char.isDigit, r.dropWhile Char.isDigit) := by
  simp [spanExponent, isMark, isSign, some_digit]

theorem spanExponent_bare {mark : Char} {r : Text} (isMark : mark = 'e' ∨ mark = 'E')
    (some_digit : r.takeWhile Char.isDigit ≠ []) :
    spanExponent (mark :: r) = (mark :: r.takeWhile Char.isDigit, r.dropWhile Char.isDigit) := by
  cases r with
  | nil => exact absurd rfl some_digit
  | cons c r =>
    have digit : c.isDigit = true := by
      by_contra other
      exact some_digit (by simp [other])
    have notSign : ¬ (c = '+' ∨ c = '-') := by
      rintro (rfl | rfl)
      · exact absurd digit (by decide)
      · exact absurd digit (by decide)
    simp [spanExponent, isMark, notSign, digit]

/-- An exponent is a mark and digits, with a sign between them or none; or there is none. -/
theorem spanExponent_cases (t : Text) :
    spanExponent t = ([], t) ∨
      (∃ mark sign r, t = mark :: sign :: r ∧ (mark = 'e' ∨ mark = 'E') ∧
        (sign = '+' ∨ sign = '-') ∧ r.takeWhile Char.isDigit ≠ []) ∨
      ∃ mark r, t = mark :: r ∧ (mark = 'e' ∨ mark = 'E') ∧ r.takeWhile Char.isDigit ≠ [] := by
  match t with
  | [] => exact .inl rfl
  | [mark] => exact .inl rfl
  | mark :: sign :: r =>
    by_cases isMark : mark = 'e' ∨ mark = 'E'
    · by_cases isSign : sign = '+' ∨ sign = '-'
      · by_cases none : r.takeWhile Char.isDigit = []
        · exact .inl (by simp [spanExponent, isMark, isSign, none])
        · exact .inr (.inl ⟨mark, sign, r, rfl, isMark, isSign, none⟩)
      · by_cases none : (sign :: r).takeWhile Char.isDigit = []
        · exact .inl (by simp [spanExponent, isSign, none])
        · exact .inr (.inr ⟨mark, sign :: r, rfl, isMark, none⟩)
    · exact .inl (by simp [spanExponent, isMark])

/-- Where no exponent stands, none comes to stand when the text is cut off. -/
theorem spanExponent_none_cut (none : spanExponent t = ([], t)) (front : cut <+: t) :
    spanExponent cut = ([], cut) := by
  obtain ⟨left, rfl⟩ := front
  rcases spanExponent_cases cut with same | ⟨mark, sign, r, rfl, isMark, isSign, some_digit⟩ |
    ⟨mark, r, rfl, isMark, some_digit⟩
  · exact same
  · have longer : (r ++ left).takeWhile Char.isDigit ≠ [] :=
      mt (takeWhile_nil_of_front (List.prefix_append r left)) some_digit
    have found := spanExponent_signed isMark isSign longer
    cases none.symm.trans found
  · have longer : (r ++ left).takeWhile Char.isDigit ≠ [] :=
      mt (takeWhile_nil_of_front (List.prefix_append r left)) some_digit
    have found := spanExponent_bare isMark longer
    cases none.symm.trans found

theorem spanExponent_cut (front : cut <+: (spanExponent t).2) :
    spanExponent ((spanExponent t).1 ++ cut) = ((spanExponent t).1, cut) := by
  rcases spanExponent_cases t with none | ⟨mark, sign, r, rfl, isMark, isSign, some_digit⟩ |
    ⟨mark, r, rfl, isMark, some_digit⟩
  · rw [none] at front ⊢
    exact spanExponent_none_cut none front
  · rw [spanExponent_signed isMark isSign some_digit] at front ⊢
    obtain ⟨taken, left⟩ := takeWhile_cut front
    rw [← taken] at some_digit
    rw [List.cons_append, List.cons_append, spanExponent_signed isMark isSign some_digit, taken,
      left]
  · rw [spanExponent_bare isMark some_digit] at front ⊢
    obtain ⟨taken, left⟩ := takeWhile_cut front
    rw [← taken] at some_digit
    rw [List.cons_append, spanExponent_bare isMark some_digit, taken, left]

theorem append_front {front back : Text} (whole : front ++ back = t) (first : cut <+: back) :
    front ++ cut <+: t :=
  whole ▸ (List.prefix_append_right_inj front).mpr first

theorem spanDecimal_cut (front : cut <+: (spanDecimal t).2) :
    spanDecimal ((spanDecimal t).1 ++ cut) = ((spanDecimal t).1, cut) := by
  have shape : (spanDecimal t).1 ++ cut = t.takeWhile Char.isDigit ++
      ((spanFraction (t.dropWhile Char.isDigit)).1 ++
        ((spanExponent (spanFraction (t.dropWhile Char.isDigit)).2).1 ++ cut)) := by
    simp [spanDecimal]
  -- What follows each piece in the shorter text is a first part of what followed it before.
  have behind : (spanExponent (spanFraction (t.dropWhile Char.isDigit)).2).1 ++ cut <+:
      (spanFraction (t.dropWhile Char.isDigit)).2 := append_front (spanExponent_append _) front
  have digits : (spanFraction (t.dropWhile Char.isDigit)).1 ++
      ((spanExponent (spanFraction (t.dropWhile Char.isDigit)).2).1 ++ cut) <+:
        t.dropWhile Char.isDigit := append_front (spanFraction_append _) behind
  have exponent : spanExponent ((spanExponent (spanFraction (t.dropWhile Char.isDigit)).2).1 ++
      cut) = ((spanExponent (spanFraction (t.dropWhile Char.isDigit)).2).1, cut) :=
    spanExponent_cut front
  obtain ⟨taken, left⟩ := takeWhile_cut digits
  rw [shape]
  simp only [spanDecimal, taken, left, spanFraction_cut behind, exponent]

/-- Whether a text starts like a hexadecimal number. -/
def StartsHex (t : Text) : Prop := ∃ mark r, t = '0' :: mark :: r ∧ (mark = 'x' ∨ mark = 'X')

theorem spanNumber_hex {mark : Char} (isHex : mark = 'x' ∨ mark = 'X') (r : Text) :
    spanNumber ('0' :: mark :: r) = ('0' :: mark :: r.takeWhile isHexDigit,
      r.dropWhile isHexDigit) := by
  simp [spanNumber, isHex]

theorem spanNumber_decimal (decimal : ¬ StartsHex t) : spanNumber t = spanDecimal t := by
  unfold spanNumber
  split
  · rename_i mark r
    exact if_neg fun isHex => decimal ⟨mark, r, rfl, isHex⟩
  · rfl

theorem StartsHex.of_front (front : cut <+: t) (starts : StartsHex cut) : StartsHex t := by
  obtain ⟨left, rfl⟩ := front
  obtain ⟨mark, r, rfl, isHex⟩ := starts
  exact ⟨mark, r ++ left, rfl, isHex⟩

theorem spanNumber_cut (front : cut <+: (spanNumber t).2) :
    spanNumber ((spanNumber t).1 ++ cut) = ((spanNumber t).1, cut) := by
  by_cases starts : StartsHex t
  · obtain ⟨mark, r, rfl, isHex⟩ := starts
    rw [spanNumber_hex isHex] at front ⊢
    obtain ⟨taken, left⟩ := takeWhile_cut front
    rw [List.cons_append, List.cons_append, spanNumber_hex isHex, taken, left]
  · have shorter := append_front (spanNumber_append t) front
    rw [spanNumber_decimal (mt (StartsHex.of_front shorter) starts)]
    rw [spanNumber_decimal starts] at front ⊢
    exact spanDecimal_cut front

/-- Digits with a unit of time behind them are a number up to there. -/
theorem spanNumber_digits {digits unit : Text} (some_digit : digits ≠ [])
    (all_digits : ∀ c ∈ digits, c.isDigit = true) (isUnit : IsUnit unit) (rest : Text) :
    spanNumber (digits ++ (unit ++ rest)) = (digits, unit ++ rest) := by
  obtain ⟨letter, letters, rfl, notDigit, -⟩ := isUnit.exists_letter
  have plain : letter ∉ ['.', 'e', 'E', 'x', 'X'] := by
    cases isUnit <;> decide
  simp only [List.mem_cons, List.not_mem_nil, or_false, not_or] at plain
  obtain ⟨notPoint, notMark, notMark', notHex, notHex'⟩ := plain
  have ends : ∀ c ∈ (letter :: letters ++ rest).head?, c.isDigit = false := by
    intro c first
    cases first
    exact notDigit
  have decimal : ¬ StartsHex (digits ++ (letter :: letters ++ rest)) := by
    rintro ⟨mark, r, same, isHex⟩
    match digits with
    | [] => exact some_digit rfl
    | [d] =>
      cases same
      exact isHex.elim notHex notHex'
    | d :: e :: digits =>
      cases same
      have digit := all_digits mark (by simp)
      rcases isHex with rfl | rfl
      · exact absurd digit (by decide)
      · exact absurd digit (by decide)
  have fraction : spanFraction (letter :: letters ++ rest) = ([], letter :: letters ++ rest) := by
    simp [spanFraction, notPoint]
  have exponent : spanExponent (letter :: letters ++ rest) = ([], letter :: letters ++ rest) := by
    rcases spanExponent_cases (letter :: letters ++ rest) with
      none | ⟨mark, sign, r, same, isMark, -⟩ | ⟨mark, r, same, isMark, -⟩
    · exact none
    · obtain ⟨rfl, -⟩ := List.cons.inj same
      exact absurd isMark (not_or.mpr ⟨notMark, notMark'⟩)
    · obtain ⟨rfl, -⟩ := List.cons.inj same
      exact absurd isMark (not_or.mpr ⟨notMark, notMark'⟩)
  rw [spanNumber_decimal decimal, spanDecimal, takeWhile_run all_digits ends,
    dropWhile_run all_digits ends, fraction]
  simp only [exponent]
  simp

theorem IsUnit.all_word {u : Text} (isUnit : IsUnit u) : ∀ c ∈ u, isWord c = true := by
  apply List.all_eq_true.mp
  cases isUnit <;> decide

theorem IsDuration.all_word {d : Text} (isDuration : IsDuration d) :
    ∀ c ∈ d, isWord c = true := by
  obtain ⟨parts, -, each, rfl⟩ := isDuration
  intro c member
  obtain ⟨part, inside, member⟩ := List.mem_flatten.mp member
  obtain ⟨-, all_digits, isUnit⟩ := each part inside
  rcases List.mem_append.mp member with digit | letter
  · exact isWord_of_isDigit (all_digits c digit)
  · exact isUnit.all_word c letter

/-- A duration starts with digits and a unit. -/
theorem IsDuration.exists_part {d : Text} (isDuration : IsDuration d) :
    ∃ digits unit more, d = digits ++ (unit ++ more) ∧ digits ≠ [] ∧
      (∀ c ∈ digits, c.isDigit = true) ∧ IsUnit unit := by
  obtain ⟨parts, some_part, each, rfl⟩ := isDuration
  obtain ⟨part, parts, rfl⟩ := List.exists_cons_of_ne_nil some_part
  cases each part List.mem_cons_self with
  | @mk digits unit some_digit all_digits isUnit =>
    exact ⟨digits, unit, parts.flatten, by simp, some_digit, all_digits, isUnit⟩

theorem EndsWord.of_front {rest : Text} (ends : EndsWord rest) (front : cut <+: rest) :
    EndsWord cut :=
  fun c first => ends c (head?_of_front front c first)

theorem endsWord_dropWhile (t : Text) : EndsWord (t.dropWhile isWord) := by
  intro c first
  have outside := List.head?_dropWhile_not isWord t
  rw [first] at outside
  simpa using outside

/-- A number that is no duration stays one when the text is cut off: the letters that would make it
a duration are a word, which is kept or left out as a whole. -/
theorem spanDuration?_cut (noDuration : spanDuration? t = none)
    (cuts : CutsFrom cut (spanNumber t).2) : spanDuration? ((spanNumber t).1 ++ cut) = none := by
  by_contra other
  obtain ⟨⟨d, r⟩, found⟩ := Option.ne_none_iff_exists'.mp other
  obtain ⟨whole, isDuration, ends⟩ := spanDuration?_eq_some_iff.mp found
  obtain ⟨digits, unit, more, rfl, some_digit, all_digits, isUnit⟩ := isDuration.exists_part
  have number := spanNumber_cut cuts.front
  have word : ∀ c ∈ unit ++ more, isWord c = true := fun c member =>
    isDuration.all_word c (List.mem_append_right digits member)
  rw [whole, List.append_assoc, List.append_assoc,
    spanNumber_digits some_digit all_digits isUnit, Prod.mk.injEq, ← List.append_assoc] at number
  obtain ⟨first, second⟩ := number
  -- The word that starts with the unit stood in the whole text already.
  obtain ⟨letter, letters, starts, notDigit, -⟩ := isUnit.exists_letter
  have kept := cuts.word letter (by rw [← second, starts]; rfl) notDigit
  rw [← second, takeWhile_run word ends] at kept
  have again : spanDuration? t =
      some (digits ++ (unit ++ more), (spanNumber t).2.dropWhile isWord) := by
    refine spanDuration?_eq_some_iff.mpr ⟨?_, isDuration, endsWord_dropWhile _⟩
    rw [List.append_assoc, kept, List.takeWhile_append_dropWhile, first, spanNumber_append]
  rw [noDuration] at again
  cases again

theorem numeric_cut (cuts : CutsFrom cut (numeric t).rest) :
    numeric ((numeric t).text ++ cut) = { numeric t with rest := cut } := by
  unfold numeric at cuts ⊢
  split at cuts
  · rename_i d rest found
    obtain ⟨rfl, isDuration, ends⟩ := spanDuration?_eq_some_iff.mp found
    have again := spanDuration?_eq_some_iff.mpr ⟨rfl, isDuration, ends.of_front cuts.front⟩
    simp only [again]
  · rename_i noDuration
    have number : CutsFrom cut (spanNumber t).2 := cuts
    simp only [spanDuration?_cut noDuration number, spanNumber_cut number.front]

/-- A closed string is read from its characters alone, whatever follows them. -/
theorem spanString_again {quote : Char} (closed : (spanString quote t).2.1 = true) :
    spanString quote (spanString quote t).1 = ((spanString quote t).1, true, []) := by
  fun_induction spanString quote t with
  | case1 => cases closed
  | case2 => cases closed
  | case3 c escapes d r body terminated rest split ih =>
    rw [split] at ih
    simp only at closed ih ⊢
    rw [spanString, if_pos escapes, ih closed]
  | case4 t plain =>
    rw [spanString.eq_def]
    simp only [if_neg plain, if_true]
  | case5 c t plain other body terminated rest split ih =>
    rw [split] at ih
    simp only at closed ih ⊢
    rw [spanString.eq_def]
    simp only [if_neg plain, if_neg other, ih closed]

theorem spanString_cut {quote : Char} (front : cut <+: (spanString quote t).2.2) :
    spanString quote ((spanString quote t).1 ++ cut) =
      ((spanString quote t).1, (spanString quote t).2.1, cut) := by
  cases closed : (spanString quote t).2.1 with
  | true =>
    have again := spanString_again closed
    have longer := spanString_closed (by rw [again]) cut
    rwa [again, List.nil_append] at longer
  | false =>
    have nothing := spanString_unclosed closed
    have whole := spanString_append quote t
    rw [nothing, List.append_nil] at whole
    rw [nothing, List.prefix_nil] at front
    rw [front, List.append_nil, whole]
    exact Prod.ext whole (Prod.ext closed nothing)

theorem symbol_cut {c : Char} (front : cut <+: (symbol c t).rest) :
    ∃ u, (symbol c t).text ++ cut = c :: u ∧ symbol c u = { symbol c t with rest := cut } := by
  cases t with
  | nil =>
    obtain rfl := List.prefix_nil.mp front
    exact ⟨[], rfl, rfl⟩
  | cons d r =>
    cases found : pair? c d with
    | some kind =>
      simp only [symbol, found]
      exact ⟨d :: cut, rfl, by simp [found]⟩
    | none =>
      simp only [symbol, found] at front ⊢
      refine ⟨cut, rfl, ?_⟩
      cases cut with
      | nil => rfl
      | cons e cut =>
        obtain ⟨rfl, -⟩ := List.cons_prefix_cons.mp front
        simp [found]

theorem numeric_starts {c : Char} (starts : c.isDigit = true ∨ c = '.') :
    ∃ more, (numeric (c :: t)).text = c :: more := by
  have splits := numeric_splits (t := t) starts
  obtain ⟨d, more, same⟩ := List.exists_cons_of_ne_nil splits.nonempty
  have whole := splits.whole
  rw [same] at whole
  obtain ⟨rfl, -⟩ := List.cons.inj whole
  exact ⟨more, same⟩

/-- A number that starts with a point has a digit behind it. -/
theorem numeric_point {more : Text} (digit : startsWithDigit t = true)
    (starts : (numeric ('.' :: t)).text = '.' :: more) : startsWithDigit more = true := by
  have noDuration : spanDuration? ('.' :: t) = none := by
    by_contra other
    obtain ⟨⟨d, r⟩, found⟩ := Option.ne_none_iff_exists'.mp other
    obtain ⟨whole, isDuration, -⟩ := spanDuration?_eq_some_iff.mp found
    obtain ⟨digits, unit, more, rfl, some_digit, all_digits, -⟩ := isDuration.exists_part
    obtain ⟨first, digits, rfl⟩ := List.exists_cons_of_ne_nil some_digit
    obtain ⟨rfl, -⟩ := List.cons.inj whole
    exact absurd (all_digits '.' List.mem_cons_self) (by decide)
  cases t with
  | nil => cases digit
  | cons d t =>
    have isDigit : d.isDigit = true := digit
    have notHex : ¬ StartsHex ('.' :: d :: t) := by
      rintro ⟨mark, r, same, -⟩
      cases same
    simp only [numeric, noDuration, spanNumber_decimal notHex, spanDecimal] at starts
    have point : ('.' : Char).isDigit = false := by decide
    simp only [List.takeWhile_cons, List.dropWhile_cons, point, isDigit, spanFraction,
      Bool.false_eq_true, if_true, if_false, List.nil_append, List.cons_append,
      List.cons.injEq, true_and] at starts
    rw [← starts]
    exact isDigit

theorem startsWithDigit_of_front (front : cut <+: t) (digit : startsWithDigit cut = true) :
    startsWithDigit t = true := by
  obtain ⟨left, rfl⟩ := front
  cases cut with
  | nil => cases digit
  | cons c cut => exact digit

section Lexemes

variable {c : Char}

theorem lexeme_name (name : isNameStart c = true) (t : Text) :
    lexeme c t = ⟨.ident (String.ofList (c :: t.takeWhile isNameRest)), c :: t.takeWhile isNameRest,
      t.dropWhile isNameRest⟩ := by
  rw [lexeme, if_pos name]

theorem lexeme_numeric (notName : isNameStart c = false)
    (number : c.isDigit = true ∨ c = '.' ∧ startsWithDigit t = true) :
    lexeme c t = numeric (c :: t) := by
  have starts : (c.isDigit || (c == '.' && startsWithDigit t)) = true := by simpa using number
  rw [lexeme, notName, starts]
  rfl

theorem lexeme_other (notName : isNameStart c = false) (notDigit : c.isDigit = false)
    (noPoint : c = '.' → startsWithDigit t = false) (notQuote : Text.isQuote c = false) :
    lexeme c t = symbol c t := by
  have notNumber : (c.isDigit || (c == '.' && startsWithDigit t)) = false := by
    simpa [notDigit] using noPoint
  rw [lexeme, notName, notNumber, notQuote]
  rfl

theorem lexeme_name_cut (name : isNameStart c = true) (cuts : CutsFrom cut (lexeme c t).rest) :
    ∃ u, (lexeme c t).text ++ cut = c :: u ∧ lexeme c u = { lexeme c t with rest := cut } := by
  rw [lexeme_name name] at cuts ⊢
  obtain ⟨taken, left⟩ := takeWhile_cut cuts.front
  exact ⟨t.takeWhile isNameRest ++ cut, rfl, by rw [lexeme_name name, taken, left]⟩

theorem lexeme_numeric_cut (notName : isNameStart c = false)
    (number : c.isDigit = true ∨ c = '.' ∧ startsWithDigit t = true)
    (cuts : CutsFrom cut (lexeme c t).rest) :
    ∃ u, (lexeme c t).text ++ cut = c :: u ∧ lexeme c u = { lexeme c t with rest := cut } := by
  rw [lexeme_numeric notName number] at cuts ⊢
  obtain ⟨more, starts⟩ := numeric_starts (t := t) (number.imp_right And.left)
  have again := numeric_cut cuts
  rw [starts, List.cons_append] at again
  refine ⟨more ++ cut, by rw [starts, List.cons_append], ?_⟩
  rw [lexeme_numeric notName, again]
  rcases number with digit | ⟨rfl, digit⟩
  · exact .inl digit
  · exact .inr ⟨rfl, startsWithDigit_of_front (List.prefix_append more cut)
      (numeric_point digit starts)⟩

theorem lexeme_quote_cut (quote : Text.isQuote c = true) (cuts : CutsFrom cut (lexeme c t).rest) :
    ∃ u, (lexeme c t).text ++ cut = c :: u ∧ lexeme c u = { lexeme c t with rest := cut } := by
  rw [lexeme_quote quote rfl] at cuts ⊢
  exact ⟨(spanString c t).1 ++ cut, rfl, lexeme_quote quote (spanString_cut cuts.front)⟩

/-- The lexeme in front is the same when the text is cut off behind it. -/
theorem lexeme_cut (cuts : CutsFrom cut (lexeme c t).rest) :
    ∃ u, (lexeme c t).text ++ cut = c :: u ∧ lexeme c u = { lexeme c t with rest := cut } := by
  cases name : isNameStart c with
  | true => exact lexeme_name_cut name cuts
  | false =>
    by_cases number : c.isDigit = true ∨ c = '.' ∧ startsWithDigit t = true
    · exact lexeme_numeric_cut name number cuts
    · cases quote : Text.isQuote c with
      | true => exact lexeme_quote_cut quote cuts
      | false =>
        obtain ⟨notDigit, noPoint⟩ := not_or.mp number
        rw [Bool.not_eq_true] at notDigit
        rw [not_and, Bool.not_eq_true] at noPoint
        have shorter := append_front (lexeme_splits c t).whole cuts.front
        rw [lexeme_other name notDigit noPoint quote] at cuts shorter ⊢
        obtain ⟨u, whole, again⟩ := symbol_cut cuts.front
        rw [whole] at shorter
        have front := (List.cons_prefix_cons.mp shorter).2
        have stillNone : c = '.' → startsWithDigit u = false := fun point =>
          Bool.eq_false_iff.mpr fun digit =>
            Bool.eq_false_iff.mp (noPoint point) (startsWithDigit_of_front front digit)
        exact ⟨u, whole, by rw [lexeme_other name notDigit stillNone quote, again]⟩

end Lexemes

end Spans

/-- Blanks and comments end where a token starts, whichever token that is. -/
theorem spanTrivia_next {inComment : Bool} {t skipped r : Text} {c : Char}
    (trivia : spanTrivia inComment t = (skipped, c :: r)) :
    StartsToken c ∧ ∀ u, spanTrivia inComment (skipped ++ c :: u) = (skipped, c :: u) := by
  fun_induction spanTrivia inComment t generalizing skipped with
  | case1 => cases trivia
  | case2 d t front rest split ih =>
    cases trivia
    obtain ⟨starts, next⟩ := ih split
    exact ⟨starts, fun u => by rw [List.cons_append, spanTrivia, next]⟩
  | case3 d t blank front rest split ih =>
    cases trivia
    obtain ⟨starts, next⟩ := ih split
    exact ⟨starts, fun u => by rw [List.cons_append, spanTrivia, if_pos blank, next]⟩
  | case4 t front rest split notBlank ih =>
    cases trivia
    obtain ⟨starts, next⟩ := ih split
    exact ⟨starts, fun u => by rw [List.cons_append, spanTrivia, if_neg notBlank, if_pos rfl, next]⟩
  | case5 d t notBlank notHash =>
    cases trivia
    have starts : StartsToken c := ⟨Bool.eq_false_iff.mpr notBlank, notHash⟩
    exact ⟨starts, spanTrivia_of_starts starts⟩

section Next

variable {t skipped r cut : Text} {c : Char}

theorem whole_of_trivia (trivia : spanTrivia false t = (skipped, c :: r)) :
    skipped ++ ((lexeme c r).text ++ (lexeme c r).rest) = t := by
  have whole := spanTrivia_append false t
  rwa [trivia, ← (lexeme_splits c r).whole] at whole

theorem length_rest_lt (trivia : spanTrivia false t = (skipped, c :: r)) :
    (lexeme c r).rest.length < t.length := by
  have wide := List.length_pos_iff.mpr (lexeme_splits c r).nonempty
  rw [← whole_of_trivia trivia, List.length_append, List.length_append]
  omega

/-- Neither a blank nor the mark of a comment goes into a word. -/
theorem not_isWord_of_trivia {rest : Text} (trivia : spanTrivia false t = (skipped, rest)) :
    ∀ b ∈ skipped.head?, isWord b = false := by
  have gap := spanTrivia_trivia false t
  rw [trivia] at gap
  simp only [Bool.false_eq_true, if_false] at gap
  cases gap with
  | nil => simp
  | @blank b _ isBlank =>
    have underscore : b ≠ '_' := Text.ne_of_isBlank isBlank (by decide) (by decide)
    simp [isWord, isAlphanum_blank isBlank, underscore]
  | comment => simp [isWord]

theorem isNameStart_of_isWord (word : isWord c = true) (notDigit : c.isDigit = false) :
    isNameStart c = true := by
  simpa [isWord, isNameStart, Char.isAlphanum, notDigit] using word

theorem not_isWord_of_not_isNameRest (ends : isNameRest c = false) : isWord c = false := by
  simp only [isNameRest, Bool.or_eq_false_iff] at ends
  simp [isWord, ends]

/-- Up to where neither text goes on with the class, its characters are the same. -/
theorem takeWhile_append_congr {p : Char → Bool} {front rest : Text}
    (ends : ∀ d ∈ rest.head?, p d = false) (ends' : ∀ d ∈ cut.head?, p d = false) :
    (front ++ cut).takeWhile p = (front ++ rest).takeWhile p := by
  induction front with
  | nil =>
    have nothing := @takeWhile_run p [] rest (by simp) ends
    rw [nothing]
    exact @takeWhile_run p [] cut (by simp) ends'
  | cons d front ih => simp only [List.cons_append, List.takeWhile_cons, ih]

/-- A text that takes in all of the token in front takes in all of the word in front. -/
theorem CutsFrom.behind (trivia : spanTrivia false t = (skipped, c :: r))
    (cuts : CutsFrom cut (lexeme c r).rest) :
    CutsFrom (skipped ++ ((lexeme c r).text ++ cut)) t := by
  have whole := whole_of_trivia trivia
  refine ⟨append_front whole (append_front rfl cuts.front), fun b first notDigit => ?_⟩
  rw [← whole]
  cases skipped with
  | cons d skipped =>
    have outside := not_isWord_of_trivia trivia d rfl
    simp [outside]
  | nil =>
    simp only [List.nil_append] at first ⊢
    obtain ⟨u, starts, -⟩ := lexeme_cut cuts
    rw [starts, List.head?_cons, Option.mem_some_iff] at first
    subst first
    cases name : isNameStart c with
    | true =>
      -- Behind a name there is nothing of a word.
      rw [lexeme_name name] at cuts ⊢
      have ends : ∀ d ∈ (r.dropWhile isNameRest).head?, isWord d = false := by
        intro d first
        have outside := List.head?_dropWhile_not isNameRest r
        rw [first] at outside
        exact not_isWord_of_not_isNameRest (by simpa using outside)
      exact takeWhile_append_congr ends fun d first => ends d (head?_of_front cuts.front d first)
    | false =>
      have outside : isWord c = false := Bool.eq_false_iff.mpr fun word =>
        Bool.eq_false_iff.mp name (isNameStart_of_isWord word notDigit)
      rw [starts, (lexeme_splits c r).whole]
      simp [outside]

end Next

/-- Blanks in front change no kind. -/
theorem Scans.blanks {gap rest : Text} {kinds : List Kind}
    (blank : ∀ c ∈ gap, Text.isBlank c = true) (later : Scans rest kinds) :
    Scans (gap ++ rest) kinds := by
  induction gap with
  | nil => exact later
  | cons b gap ih =>
    obtain ⟨first, others⟩ := List.forall_mem_cons.mp blank
    intro steps offset enough
    obtain ⟨steps, rfl⟩ := Nat.exists_eq_succ_of_ne_zero
      (Nat.ne_of_gt (Nat.lt_of_lt_of_le (Nat.succ_pos _) enough))
    have same : scanFrom (steps + 1) offset (b :: (gap ++ rest)) =
        scanFrom (steps + 1) (offset + b.utf8Size) (gap ++ rest) := by
      simp [scanFrom, spanTrivia, first, Nat.add_assoc]
    rw [List.cons_append, same]
    exact ih others (steps + 1) _ (Nat.le_of_succ_le enough)

/-- The tokens of a text that starts at byte `offset`, the end of input included. -/
inductive Scanned : Nat → Text → List Token → Prop
  | finish {offset : Nat} {t skipped : Text} (trivia : spanTrivia false t = (skipped, [])) :
      Scanned offset t [finish (offset + Text.size skipped)]
  | token {offset : Nat} {t skipped r : Text} {c : Char} {ts : List Token}
      (trivia : spanTrivia false t = (skipped, c :: r))
      (later : Scanned (offset + Text.size skipped + Text.size (lexeme c r).text)
        (lexeme c r).rest ts) :
      Scanned offset t
        (⟨(lexeme c r).kind, ⟨offset + Text.size skipped, Text.size (lexeme c r).text⟩⟩ :: ts)

theorem scanFrom_scanned {steps : Nat} (offset : Nat) {t : Text} (enough : t.length ≤ steps) :
    Scanned offset t (scanFrom steps offset t) := by
  induction steps generalizing offset t with
  | zero =>
    obtain rfl := List.length_eq_zero_iff.mp (Nat.le_zero.mp enough)
    exact .finish rfl
  | succ steps ih =>
    cases trivia : spanTrivia false t with | mk skipped rest => ?_
    cases rest with
    | nil =>
      rw [scanFrom, trivia]
      exact .finish trivia
    | cons c r =>
      rw [scanFrom_cons steps offset trivia]
      have shorter := length_rest_lt trivia
      exact .token trivia (ih _ (by omega))

namespace Scanned

variable {offset : Nat} {t : Text} {ts : List Token}

theorem nil (offset : Nat) : Scanned offset [] [Token.finish offset] :=
  @finish offset [] [] rfl

theorem ne_nil (scanned : Scanned offset t ts) : ts ≠ [] := by
  cases scanned <;> exact List.cons_ne_nil _ _

theorem eq_scanFrom (scanned : Scanned offset t ts) {steps : Nat} (enough : t.length ≤ steps) :
    scanFrom steps offset t = ts := by
  induction scanned generalizing steps with
  | @finish offset t skipped trivia =>
    cases steps with
    | zero =>
      obtain rfl := List.length_eq_zero_iff.mp (Nat.le_zero.mp enough)
      cases trivia
      rfl
    | succ steps => rw [scanFrom, trivia]
  | token trivia later ih =>
    have shorter := length_rest_lt trivia
    obtain ⟨steps, rfl⟩ := Nat.exists_eq_succ_of_ne_zero (n := steps) (by omega)
    rw [scanFrom_cons steps _ trivia, ih (by omega)]

/-- Cut off behind the token in front or behind a later one, a text starts with the same token. -/
theorem token_cut {skipped r cut : Text} {c : Char}
    (trivia : spanTrivia false t = (skipped, c :: r))
    (cuts : CutsFrom cut (lexeme c r).rest)
    (later : Scanned (offset + Text.size skipped + Text.size (lexeme c r).text) cut ts) :
    Scanned offset (skipped ++ ((lexeme c r).text ++ cut))
      (⟨(lexeme c r).kind, ⟨offset + Text.size skipped, Text.size (lexeme c r).text⟩⟩ :: ts) := by
  obtain ⟨u, whole, same⟩ := lexeme_cut cuts
  rw [whole]
  have first := @token offset _ _ u c ts ((spanTrivia_next trivia).2 u)
  rw [same] at first
  exact first later

theorem cut (scanned : Scanned offset t ts) {front back : List Token} {u : Token}
    (split : ts = front ++ u :: back) (inner : u.kind ≠ .endOfInput) :
    ∃ cut, CutsFrom cut t ∧ u.stop = offset + Text.size cut ∧
      Scanned offset cut (front ++ [u, Token.finish u.stop]) := by
  induction scanned generalizing front with
  | finish =>
    cases front with
    | nil =>
      obtain ⟨rfl, -⟩ := List.cons.inj split
      exact absurd rfl inner
    | cons first front =>
      obtain ⟨-, split⟩ := List.cons.inj split
      exact absurd split.symm (by simp)
  | @token offset t skipped r c ts trivia later ih =>
    cases front with
    | nil =>
      obtain ⟨rfl, -⟩ := List.cons.inj split
      refine ⟨_, .behind trivia (.nil _), ?_, token_cut trivia (.nil _) (nil _)⟩
      simp [Token.stop, Span.stop, Nat.add_assoc]
    | cons first front =>
      obtain ⟨rfl, behind⟩ := List.cons.inj split
      obtain ⟨cut, cuts, stop, again⟩ := ih behind
      refine ⟨_, .behind trivia cuts, ?_, token_cut trivia cuts again⟩
      rw [stop]
      simp [Nat.add_assoc]

theorem joined (scanned : Scanned offset t ts) {again : Text}
    (join : Text.Joined (ts.dropLast.map fun u => u.kind.text.toList) again) :
    Scans again (ts.map Token.kind) := by
  induction scanned generalizing again with
  | finish =>
    cases join
    exact .nil
  | @token offset t skipped r c ts trivia later ih =>
    obtain ⟨starts, -⟩ := spanTrivia_next trivia
    obtain ⟨u, whole, alone⟩ := lexeme_cut (.nil (lexeme c r).rest)
    rw [List.append_nil] at whole
    rw [List.dropLast_cons_of_ne_nil later.ne_nil, List.map_cons, lexeme_text, whole] at join
    generalize texts : ts.dropLast.map (fun u => u.kind.text.toList) = us at join
    cases join with
    | one => exact .cons starts alone (ih (texts ▸ .none))
    | @cons _ _ gap rest _ wide blank more =>
      -- An open string would be the last token, and another one follows.
      have closed : ∀ raw, (lexeme c u).kind ≠ .string raw false := by
        intro raw opened
        rw [alone] at opened
        rw [rest_of_unclosed opened] at later
        cases later with
        | finish => cases texts
        | token trivia => cases trivia
      obtain ⟨b, w, rfl⟩ := List.exists_cons_of_ne_nil wide
      have longer := lexeme_blank (w := w ++ rest) (blank b List.mem_cons_self) closed
      have behind : Scans (b :: (w ++ rest)) (ts.map Token.kind) :=
        .blanks blank (ih (texts ▸ more))
      rw [alone] at longer
      exact .cons starts longer behind

end Scanned

/-- The tokens of a text are read again from their own texts with blanks between them, and so are
the tokens up to any one of them from the text up to its end. -/
theorem scan_again (text : Text) :
    ∃ ts, scan text = ts ++ [finish (Text.size text)] ∧ (∀ t ∈ ts, t.kind ≠ .endOfInput) ∧
      (∀ joined, Text.Joined (ts.map fun t => t.kind.text.toList) joined →
        (scan joined).map Token.kind = (scan text).map Token.kind) ∧
      ∀ front t back, ts = front ++ t :: back →
        ∃ cut, Text.slice? text 0 t.stop = some cut ∧ scan cut = front ++ [t, finish t.stop] := by
  obtain ⟨ts, scanned, -, placed⟩ := scan_tokens text
  have whole : Scanned 0 text (ts ++ [finish (Text.size text)]) := by
    rw [← scanned]
    exact scanFrom_scanned 0 (Nat.le_refl _)
  refine ⟨ts, scanned, fun t member => (placed t member).1, fun joined join => ?_, ?_⟩
  · rw [scanned]
    exact (whole.joined (by rwa [List.dropLast_concat])).scan
  · rintro front t back rfl
    have inner := (placed t (by simp)).1
    obtain ⟨cut, ⟨⟨left, rfl⟩, -⟩, stop, again⟩ := whole.cut (List.append_assoc _ _ _) inner
    rw [Nat.zero_add] at stop
    refine ⟨cut, ?_, again.eq_scanFrom (Nat.le_refl _)⟩
    rw [stop]
    simpa using Text.slice?_append [] cut left

/-- A number that the letters behind it keep from being a duration, an operator behind a comment,
and a string that is never closed. -/
theorem scan_again_tricky :
    (scan "1\th30\u2003== \x27é".toList).map Token.kind =
        [.number "1", .ident "h30", .eqEq, .string "\x27é" false, .endOfInput] ∧
      scan "1h30#\n==".toList =
        [⟨.number "1", 0, 1⟩, ⟨.ident "h30", 1, 3⟩, ⟨.eqEq, 6, 2⟩, finish 8] := by
  obtain ⟨ts, scanned, -, again, cuts⟩ := scan_again "1h30#\n==\x27é".toList
  have known : scan "1h30#\n==\x27é".toList =
      ([⟨.number "1", 0, 1⟩, ⟨.ident "h30", 1, 3⟩] ++
        ⟨.eqEq, 6, 2⟩ :: [⟨.string "\x27é" false, 8, 3⟩]) ++ [finish 11] := by
    decide +kernel
  obtain rfl := List.append_cancel_right (scanned.symm.trans known)
  constructor
  · have blank : ∀ gap : Text, gap.all Text.isBlank = true → ∀ c ∈ gap, Text.isBlank c = true :=
      fun _ => List.all_eq_true.mp
    have join : Text.Joined [['1'], ['h', '3', '0'], ['=', '='], ['\x27', 'é']]
        (['1'] ++ (['\t'] ++ (['h', '3', '0'] ++ (['\u2003'] ++ (['=', '='] ++
          ([' '] ++ ['\x27', 'é'])))))) :=
      .cons (by simp) (blank _ (by decide)) (.cons (by simp) (blank _ (by decide))
        (.cons (by simp) (blank _ (by decide)) (.one _)))
    have kinds := again _ join
    rw [known] at kinds
    exact kinds
  · obtain ⟨cut, sliced, same⟩ := cuts _ _ _ rfl
    have front : Text.slice? "1h30#\n==\x27é".toList 0 8 = some "1h30#\n==".toList := by
      decide +kernel
    obtain rfl := Option.some.inj (sliced.symm.trans front)
    exact same

end Token

end MetricQuery
