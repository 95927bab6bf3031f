import MetricQuery.Proofs.TokenRange

/-!
Durations. What the scanner takes for a duration are parts, digits and a unit each, with no letter,
digit or underscore behind them. The scanner takes a unit at first sight, the longest one that
fits; no other way to cut a text into parts would have come further, since digits follow a unit or
nothing of a word does.
-/

set_option autoImplicit false

namespace MetricQuery

namespace Token

/-- The units of time in which a part of a duration counts. -/
inductive IsUnit : Text → Prop
  | milliseconds : IsUnit ['m', 's']
  | seconds : IsUnit ['s']
  | minutes : IsUnit ['m']
  | hours : IsUnit ['h']
  | days : IsUnit ['d']
  | weeks : IsUnit ['w']
  | years : IsUnit ['y']

/-- Digits and a unit of time. -/
inductive IsPart : Text → Prop
  | mk {digits unit : Text} (some_digit : digits ≠ []) (all_digits : ∀ c ∈ digits, c.isDigit = true)
      (isUnit : IsUnit unit) : IsPart (digits ++ unit)

/-- One part or more, one behind another. -/
def IsDuration (t : Text) : Prop :=
  ∃ parts : List Text, parts ≠ [] ∧ (∀ part ∈ parts, IsPart part) ∧ t = parts.flatten

/-- Letters, digits and the underscore. -/
def isWord (c : Char) : Bool := c.isAlphanum || c == '_'

/-- No letter, digit or underscore comes first. -/
def EndsWord (rest : Text) : Prop := ∀ c ∈ rest.head?, isWord c = false

theorem isUnit_of_mem {u : Text} (known : u ∈ durationUnits) : IsUnit u := by
  simp only [durationUnits, List.mem_cons, List.not_mem_nil, or_false] at known
  rcases known with rfl | rfl | rfl | rfl | rfl | rfl | rfl <;> constructor

theorem isUnit_of_spanUnit? {t u rest : Text} (found : spanUnit? t = some (u, rest)) :
    IsUnit u := by
  obtain ⟨unit, known, taken⟩ := List.exists_of_findSome?_eq_some found
  split at taken
  · cases taken
    exact isUnit_of_mem known
  · cases taken

/-- A unit starts with a letter, which no digit is. -/
theorem IsUnit.exists_letter {u : Text} (isUnit : IsUnit u) :
    ∃ c more, u = c :: more ∧ c.isDigit = false ∧ c.isAlpha = true := by
  cases isUnit <;> exact ⟨_, _, rfl, by decide, by decide⟩

/-- The unit in front is found, unless minutes were meant where milliseconds can be read. -/
theorem spanUnit?_unit {u rest : Text} (isUnit : IsUnit u) (apart : rest.head? ≠ some 's') :
    spanUnit? (u ++ rest) = some (u, rest) := by
  cases isUnit with
  | minutes =>
    cases rest with
    | nil => rfl
    | cons c rest =>
      have other : 's' ≠ c := fun same => apart (congrArg some same.symm)
      simp [spanUnit?, durationUnits, List.findSome?, other]
  | _ => rfl

theorem isWord_of_isDigit {c : Char} (digit : c.isDigit = true) : isWord c = true := by
  simp [isWord, Char.isAlphanum, digit]

theorem not_isDigit_of_endsWord {rest : Text} (ends : EndsWord rest) :
    ∀ c ∈ rest.head?, c.isDigit = false := by
  intro c first
  have outside := ends c first
  rw [← Bool.not_eq_true] at outside ⊢
  exact fun digit => outside (isWord_of_isDigit digit)

section Runs

variable {p : Char → Bool} {front rest : Text}

/-- A run of characters of a class ends where the next character is of another. -/
theorem takeWhile_run (inside : ∀ c ∈ front, p c = true) (ends : ∀ c ∈ rest.head?, p c = false) :
    (front ++ rest).takeWhile p = front := by
  rw [List.takeWhile_append_of_pos inside]
  cases rest with
  | nil => simp
  | cons c rest => simp [ends c rfl]

theorem dropWhile_run (inside : ∀ c ∈ front, p c = true) (ends : ∀ c ∈ rest.head?, p c = false) :
    (front ++ rest).dropWhile p = rest := by
  rw [List.dropWhile_append_of_pos inside]
  cases rest with
  | nil => rfl
  | cons c rest => simp [ends c rfl]

end Runs

/-- What is split off is one part after another. -/
theorem spanParts_parts (steps : Nat) (t : Text) :
    ∃ parts : List Text, (∀ part ∈ parts, IsPart part) ∧ (spanParts steps t).1 = parts.flatten := by
  fun_induction spanParts steps t with
  | case1 => exact ⟨[], by simp, rfl⟩
  | case2 => exact ⟨[], by simp, rfl⟩
  | case3 => exact ⟨[], by simp, rfl⟩
  | case4 steps t digits some_digit unit r found more rest tail ih =>
    obtain ⟨parts, each, same⟩ := ih
    rw [tail] at same
    have first : IsPart (digits ++ unit) :=
      .mk (by simpa using some_digit) (fun c => List.all_eq_true.mp List.all_takeWhile c)
        (isUnit_of_spanUnit? found)
    exact ⟨(digits ++ unit) :: parts, List.forall_mem_cons.mpr ⟨first, each⟩,
      congrArg (digits ++ unit ++ ·) same⟩

/-- Behind a part another one follows, which starts with a digit, or nothing of a word. -/
theorem head?_parts {parts : List Text} {rest : Text} (each : ∀ part ∈ parts, IsPart part)
    (ends : EndsWord rest) :
    ∀ c ∈ (parts.flatten ++ rest).head?, c.isDigit = true ∨ isWord c = false := by
  intro c first
  cases parts with
  | nil => exact .inr (ends c first)
  | cons part parts =>
    cases each part List.mem_cons_self with
    | @mk digits unit some_digit all_digits _ =>
      obtain ⟨d, more, rfl⟩ := List.exists_cons_of_ne_nil some_digit
      cases first
      exact .inl (all_digits _ List.mem_cons_self)

/-- Parts with nothing of a word behind them are split off as they are. -/
theorem spanParts_flatten {parts : List Text} {rest : Text} (each : ∀ part ∈ parts, IsPart part)
    (ends : EndsWord rest) {steps : Nat} (enough : parts.length ≤ steps) :
    spanParts steps (parts.flatten ++ rest) = (parts.flatten, rest) := by
  induction parts generalizing steps with
  | nil =>
    cases steps with
    | zero => rfl
    | succ steps =>
      have none : rest.takeWhile Char.isDigit = [] :=
        @takeWhile_run Char.isDigit [] rest (by simp) (not_isDigit_of_endsWord ends)
      simp [spanParts, none]
  | cons part parts ih =>
    obtain ⟨first, later⟩ := List.forall_mem_cons.mp each
    obtain ⟨steps, rfl⟩ := Nat.exists_eq_succ_of_ne_zero
      (Nat.ne_of_gt (Nat.lt_of_lt_of_le (Nat.succ_pos parts.length) enough))
    cases first with | @mk digits unit some_digit all_digits isUnit => ?_
    have follows := head?_parts later ends
    obtain ⟨letter, letters, rfl, notDigit, -⟩ := isUnit.exists_letter
    have stops : ∀ c ∈ ((letter :: letters) ++ (parts.flatten ++ rest)).head?,
        c.isDigit = false := by
      intro c first
      cases first
      exact notDigit
    have apart : (parts.flatten ++ rest).head? ≠ some 's' := by
      intro second
      rcases follows 's' second with digit | outside
      · exact absurd digit (by decide)
      · exact absurd outside (by decide)
    have taken := takeWhile_run all_digits stops
    have left := dropWhile_run all_digits stops
    have tail := ih later (Nat.le_of_succ_le_succ enough)
    rw [List.flatten_cons, List.append_assoc, List.append_assoc, spanParts, taken, left,
      spanUnit?_unit isUnit apart]
    simp [some_digit, tail]

theorem length_le_flatten {parts : List Text} (each : ∀ part ∈ parts, IsPart part) :
    parts.length ≤ parts.flatten.length := by
  induction parts with
  | nil => exact Nat.le_refl 0
  | cons part parts ih =>
    obtain ⟨first, later⟩ := List.forall_mem_cons.mp each
    obtain ⟨some_digit, -, -⟩ := first
    have wide := List.length_pos_iff.mpr some_digit
    have inner := ih later
    simp only [List.flatten_cons, List.length_append, List.length_cons]
    omega

/-- A duration is all the parts in front, and a word that goes on behind them forbids it. -/
theorem spanParts_of_spanDuration? {t d rest : Text} (found : spanDuration? t = some (d, rest)) :
    (spanParts t.length t).1 = d ∧ EndsWord rest := by
  revert found
  simp only [spanDuration?]
  generalize spanParts t.length t = split
  obtain ⟨front, after⟩ := split
  intro found
  simp only at found ⊢
  split at found
  · cases found
  · split at found
    · cases found
      exact ⟨rfl, by simp [EndsWord]⟩
    · split at found
      · cases found
      · rename_i outside
        cases found
        exact ⟨rfl, by simpa [EndsWord, isWord] using outside⟩

/-- What is split off is the duration in front that ends a word, if there is one. -/
theorem spanDuration?_eq_some_iff {t d rest : Text} :
    spanDuration? t = some (d, rest) ↔ t = d ++ rest ∧ IsDuration d ∧ EndsWord rest := by
  constructor
  · intro found
    obtain ⟨whole, nonempty⟩ := spanDuration?_append found
    obtain ⟨parts, each, same⟩ := spanParts_parts t.length t
    obtain ⟨kept, ends⟩ := spanParts_of_spanDuration? found
    rw [kept] at same
    refine ⟨whole.symm, ⟨parts, ?_, each, same⟩, ends⟩
    rintro rfl
    exact nonempty same
  · rintro ⟨rfl, ⟨parts, some_part, each, rfl⟩, ends⟩
    have enough : parts.length ≤ (parts.flatten ++ rest).length := by
      have wide := length_le_flatten each
      rw [List.length_append]
      omega
    have nonempty : parts.flatten ≠ [] := by
      have wide := length_le_flatten each
      have some := List.length_pos_iff.mpr some_part
      exact List.length_pos_iff.mp (Nat.lt_of_lt_of_le some wide)
    rw [spanDuration?, spanParts_flatten each ends enough]
    cases rest with
    | nil => simp [nonempty]
    | cons c rest =>
      have outside : (c.isAlphanum || c == '_') = false := ends c rfl
      simp [nonempty, outside]

/-- Where the duration ends that starts at byte `start`, if one does. -/
def durationStop? (text : Text) (start : Nat) : Option Nat :=
  (Text.dropBytes? text start).bind fun t =>
    (spanDuration? t).map fun split => start + Text.size split.1

/-- The bytes `[start, stop)` are a duration, and no word goes on behind them. -/
structure DurationAt (text : Text) (start stop : Nat) : Prop where
  spelled : ∃ d, Text.slice? text start stop = some d ∧ IsDuration d
  ends : ∃ rest, Text.dropBytes? text stop = some rest ∧ EndsWord rest

theorem durationAt_append {front d rest : Text} (isDuration : IsDuration d)
    (ends : EndsWord rest) :
    DurationAt (front ++ (d ++ rest)) (Text.size front) (Text.size front + Text.size d) := by
  refine ⟨⟨d, Text.slice?_append front d rest, isDuration⟩, ⟨rest, ?_, ends⟩⟩
  rw [← List.append_assoc, ← Text.size_append]
  exact Text.dropBytes?_append _ _

theorem DurationAt.split {text : Text} {start stop : Nat} (found : DurationAt text start stop) :
    ∃ d rest, Text.dropBytes? text start = some (d ++ rest) ∧ stop = start + Text.size d ∧
      IsDuration d ∧ EndsWord rest := by
  obtain ⟨⟨d, sliced, isDuration⟩, ⟨rest, dropped, ends⟩⟩ := found
  have ordered := Text.le_of_slice? sliced
  obtain ⟨before, whole, bytes⟩ := Text.exists_append_of_dropBytes? dropped
  rw [Text.slice?, if_pos ordered, Option.bind_eq_some_iff] at sliced
  obtain ⟨t, fromStart, taken⟩ := sliced
  obtain ⟨front, whole', bytes'⟩ := Text.exists_append_of_dropBytes? fromStart
  obtain ⟨middle, rfl⟩ := Text.exists_append_of_size_le (whole'.symm.trans whole) (by omega)
  rw [whole', List.append_assoc, List.append_cancel_left_eq] at whole
  subst whole
  have size := Text.size_append front middle
  have width : stop - start = Text.size middle := by omega
  rw [width, Text.takeBytes?_append, Option.some.injEq] at taken
  subst taken
  exact ⟨middle, rest, fromStart, by omega, isDuration, ends⟩

theorem durationStop?_eq_some_iff {text : Text} {start stop : Nat} :
    durationStop? text start = some stop ↔ DurationAt text start stop := by
  constructor
  · intro found
    obtain ⟨t, dropped, split⟩ := Option.bind_eq_some_iff.mp found
    obtain ⟨⟨d, rest⟩, spans, rfl⟩ := Option.map_eq_some_iff.mp split
    obtain ⟨rfl, isDuration, ends⟩ := spanDuration?_eq_some_iff.mp spans
    obtain ⟨front, rfl, rfl⟩ := Text.exists_append_of_dropBytes? dropped
    exact durationAt_append isDuration ends
  · intro found
    obtain ⟨d, rest, dropped, rfl, isDuration, ends⟩ := found.split
    have spans := spanDuration?_eq_some_iff.mpr ⟨rfl, isDuration, ends⟩
    rw [durationStop?, dropped, Option.bind_some, spans, Option.map_some]

/-- At every byte of a text the scanner finds the one duration that starts there, and finds none
only where there is none. -/
theorem durationStop?_exact (text : Text) (start : Nat) :
    (∀ stop, durationStop? text start = some stop ↔ DurationAt text start stop) ∧
      (∀ stop other, DurationAt text start stop → DurationAt text start other → stop = other) ∧
      (durationStop? text start = none ↔ ∀ stop, ¬ DurationAt text start stop) := by
  refine ⟨fun stop => durationStop?_eq_some_iff, ?_, ?_⟩
  · intro stop other found found'
    rw [← durationStop?_eq_some_iff] at found found'
    exact Option.some.inj (found.symm.trans found')
  · simp only [← durationStop?_eq_some_iff]
    exact Option.eq_none_iff_forall_ne_some

/-- Milliseconds are no minutes with a letter behind them, and with one they are no duration. -/
theorem durationStop?_exact_milliseconds :
    DurationAt "é[1h5ms:]".toList 3 8 ∧ ¬ DurationAt "é[1h5ms:]".toList 3 7 ∧
      ∀ stop, ¬ DurationAt "1h5min".toList 0 stop := by
  obtain ⟨found, only, -⟩ := durationStop?_exact "é[1h5ms:]".toList 3
  have whole : DurationAt "é[1h5ms:]".toList 3 8 := (found 8).mp (by decide)
  refine ⟨whole, fun shorter => ?_, (durationStop?_exact "1h5min".toList 0).2.2.mp (by decide)⟩
  exact absurd (only 8 7 whole shorter) (by decide)

end Token

end MetricQuery
