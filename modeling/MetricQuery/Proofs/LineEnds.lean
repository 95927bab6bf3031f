import MetricQuery.Proofs.DocumentPositions

/-!
The ends of lines. A character beyond its line is taken as the end of the line, and the break is
part of the line: so on the last line it stays where the text ends, and on every other line it goes
behind the break, which is where the next line starts.
-/

set_option autoImplicit false

namespace MetricQuery

namespace Text

/-- What stands on a line in front of its break. -/
def lineContent (line : Text) : Text := line.takeWhile (!isLineBreak ·)

/-- How a line ends. -/
inductive IsBreak : Text → Prop
  | pair : IsBreak ['\r', '\n']
  | single {c : Char} (breaks : isLineBreak c = true) : IsBreak [c]

/-- Lines as they stand in a text: each but the last ends in a break, and there is none before. -/
inductive Broken : List Text → Prop
  | last {line : Text} (unbroken : ∀ c ∈ line, isLineBreak c = false) : Broken [line]
  | cons {content brk : Text} {lines : List Text} (unbroken : ∀ c ∈ content, isLineBreak c = false)
      (ends : IsBreak brk) (more : Broken lines) : Broken ((content ++ brk) :: lines)

theorem IsBreak.starts {brk : Text} (ends : IsBreak brk) :
    ∃ c rest, brk = c :: rest ∧ isLineBreak c = true := by
  cases ends with
  | pair => exact ⟨'\r', ['\n'], rfl, by decide⟩
  | single breaks => exact ⟨_, [], rfl, breaks⟩

theorem Broken.extendFirst {c : Char} {lines : List Text} (unbroken : isLineBreak c = false)
    (broken : Broken lines) : Broken (extendFirst c lines) := by
  cases broken with
  | last rest => exact .last (List.forall_mem_cons.mpr ⟨unbroken, rest⟩)
  | cons rest ends more => exact .cons (List.forall_mem_cons.mpr ⟨unbroken, rest⟩) ends more

theorem splitLines_broken (t : Text) : Broken (splitLines t) := by
  fun_induction splitLines t with
  | case1 => exact .last (List.forall_mem_nil _)
  | case2 t ih => exact .cons (List.forall_mem_nil _) .pair ih
  | case3 c t _ breaks ih => exact .cons (List.forall_mem_nil _) (.single breaks) ih
  | case4 c t _ unbroken ih => exact ih.extendFirst (by simpa using unbroken)

/-- The content goes up to the first break. -/
theorem lineContent_append {content rest : Text} (unbroken : ∀ c ∈ content, isLineBreak c = false)
    (ends : rest = [] ∨ IsBreak rest) : lineContent (content ++ rest) = content := by
  have passed : ∀ c ∈ content, (!isLineBreak c) = true := by
    intro c member
    rw [unbroken c member]
    rfl
  have stops : rest.takeWhile (!isLineBreak ·) = [] := by
    rcases ends with rfl | brk
    · rfl
    · obtain ⟨c, more, rfl, breaks⟩ := brk.starts
      simp [breaks]
  rw [lineContent, List.takeWhile_append_of_pos passed, stops, List.append_nil]

theorem Broken.from_line {before after : List Text} {line : Text}
    (broken : Broken (before ++ line :: after)) :
    Broken (line :: after) := by
  induction before with
  | nil => exact broken
  | cons first before ih =>
    obtain ⟨next, rest, more⟩ : ∃ next rest, before ++ line :: after = next :: rest :=
      List.exists_cons_of_ne_nil (by simp)
    rw [List.cons_append, more] at broken
    rw [more] at ih
    cases broken with
    | cons _ _ later => exact ih later

theorem Broken.content_last {line : Text} (broken : Broken [line]) : lineContent line = line := by
  generalize whole : [line] = lines at broken
  cases broken with
  | last unbroken =>
    cases whole
    simpa using lineContent_append unbroken (.inl rfl)
  | cons unbroken ends more =>
    cases whole
    cases more

theorem Broken.content_break {line next : Text} {after : List Text}
    (broken : Broken (line :: next :: after)) :
    ∃ brk, IsBreak brk ∧ line = lineContent line ++ brk := by
  generalize whole : line :: next :: after = lines at broken
  cases broken with
  | last => cases whole
  | cons unbroken ends more =>
    cases whole
    exact ⟨_, ends, by rw [lineContent_append unbroken (.inr ends)]⟩

/-- One more unit than some characters take is one in the characters behind them. -/
theorem bytesOfUnits_append (s t : Text) (n : Nat) :
    bytesOfUnits (s ++ t) n =
      if units s ≤ n then size s + bytesOfUnits t (n - units s) else bytesOfUnits s n := by
  rw [bytesOfUnits_eq, bytesOfUnits_eq, bytesOfUnits_eq, indexAt_append, ← units_eq_extent]
  split
  · rw [List.take_length_add_append, size_append]
  · rename_i inside
    have short : indexAt charUnits s n ≤ s.length := indexAt_le_length s n
    rw [List.take_append_of_le_length short]

/-- Up to the end of a text nothing behind it is read. -/
theorem bytesOfUnits_append_of_le {s : Text} {n : Nat} (inside : n ≤ units s) (t : Text) :
    bytesOfUnits (s ++ t) n = bytesOfUnits s n := by
  rw [units_eq_extent] at inside
  rw [bytesOfUnits_eq, bytesOfUnits_eq,
    indexAt_append_of_le (fun c _ => charUnits_pos c) inside,
    List.take_append_of_le_length (indexAt_le_length s n)]

/-- All of a text fits if its units do, and then nothing is left of it. -/
theorem bytesOfUnits_of_le {t : Text} {n : Nat} (fits : units t ≤ n) :
    bytesOfUnits t n = size t := by
  have whole := bytesOfUnits_append t [] n
  rw [List.append_nil, if_pos fits] at whole
  simpa [bytesOfUnits] using whole

theorem bytesOfUnits_lt_iff {t : Text} {n : Nat} : bytesOfUnits t n < size t ↔ n < units t := by
  constructor
  · intro short
    by_contra fits
    rw [bytesOfUnits_of_le (Nat.le_of_not_lt fits)] at short
    exact Nat.lt_irrefl _ short
  · intro inside
    have early : indexAt charUnits t n < t.length := by
      by_contra behind
      have all := (le_indexAt_iff (Nat.le_refl _)).mp (Nat.le_of_not_lt behind)
      rw [List.take_length, ← units_eq_extent] at all
      omega
    have parts := congrArg size (List.take_append_drop (indexAt charUnits t n) t)
    have left := size_pos (t := t.drop (indexAt charUnits t n)) (by simpa using early)
    rw [size_append] at parts
    rw [bytesOfUnits_eq]
    omega

theorem bytesOfUnits_le (t : Text) (n : Nat) : bytesOfUnits t n ≤ size t := by
  rw [bytesOfUnits_eq, size_eq_extent, size_eq_extent]
  exact extent_take_le t _

theorem units_append (s t : Text) : units (s ++ t) = units s + units t := by
  rw [units_eq_extent, units_eq_extent, units_eq_extent, extent_append]

theorem units_pos {t : Text} (some : t ≠ []) : 0 < units t := by
  cases t with
  | nil => exact absurd rfl some
  | cons c t =>
    have wide := charUnits_pos c
    rw [units]
    omega

/-- Behind the content of a line the first unit takes in a part of the break. -/
theorem lt_bytesOfUnits_break {content brk : Text} (ends : IsBreak brk) {n : Nat}
    (beyond : units content < n) : size content < bytesOfUnits (content ++ brk) n := by
  obtain ⟨c, rest, rfl, breaks⟩ := ends.starts
  have narrow : charUnits c = 1 := by
    rw [charUnits, if_pos]
    simp only [isLineBreak, Bool.or_eq_true, Bool.and_eq_true, decide_eq_true_eq, beq_iff_eq]
      at breaks
    omega
  have wide := c.utf8Size_pos
  rw [bytesOfUnits_append, if_pos (Nat.le_of_lt beyond), bytesOfUnits, if_pos (by omega)]
  omega

end Text

namespace Document

variable {d : Document} {p : Position} {before after : List Text} {line : Text}

theorem broken_of_lines (same : d.lines = before ++ line :: after) :
    Text.Broken (line :: after) := by
  have broken : Text.Broken d.lines := Text.splitLines_broken d.text
  rw [same] at broken
  exact broken.from_line

/-- From a character on its line the line comes back, and so it does from the end of the last. -/
theorem position_of_stays (same : d.lines = before ++ line :: after)
    (offset : d.offset p = Text.size before.flatten + Text.bytesOfUnits line p.character)
    (stays : after = [] ∨ p.character < Text.units line) :
    (d.position (d.offset p)).line = before.length := by
  have there : Text.bytesOfUnits line p.character < Text.size line ∨ after = [] :=
    stays.symm.imp_left Text.bytesOfUnits_lt_iff.mpr
  rw [offset, position, same, positionIn_append _ there]

/-- A character behind the break of its line is the start of the next line. -/
theorem position_of_leaves (same : d.lines = before ++ line :: after)
    (offset : d.offset p = Text.size before.flatten + Text.bytesOfUnits line p.character)
    (more : after ≠ []) (behind : Text.units line ≤ p.character) :
    d.position (d.offset p) = ⟨before.length + 1, 0⟩ := by
  obtain ⟨next, rest, rfl⟩ := List.exists_cons_of_ne_nil more
  have broken : Text.Broken (next :: rest) := by
    have later : d.lines = (before ++ [line]) ++ next :: rest := by
      rw [same, List.append_assoc]
      rfl
    exact broken_of_lines later
  have there : 0 < Text.size next ∨ rest = [] := by
    cases rest with
    | nil => exact .inr rfl
    | cons later rest =>
      obtain ⟨brk, ends, whole⟩ := broken.content_break
      obtain ⟨c, others, rfl, -⟩ := ends.starts
      left
      apply Text.size_pos
      rw [whole]
      simp
  have start : Text.size before.flatten + Text.size line =
      Text.size (before ++ [line]).flatten + 0 := by simp
  have split : before ++ line :: next :: rest = (before ++ [line]) ++ next :: rest := by simp
  rw [offset, Text.bytesOfUnits_of_le behind, start, position, same, split,
    positionIn_append 0 there, List.length_append, List.length_singleton]
  have none : Text.unitsOfBytes next 0 = 0 := by
    cases next with
    | nil => rfl
    | cons c next =>
      have wide := c.utf8Size_pos
      rw [Text.unitsOfBytes, if_neg (by omega)]
  rw [none]

/-- What becomes of a position on a line with the lines `before` and `after` it. -/
structure Clamped (d : Document) (p : Position) (before : List Text) (line : Text)
    (after : List Text) : Prop where
  /-- Up to the end of the content the offset is one of the content, and the line comes back. -/
  content : p.character ≤ Text.units (Text.lineContent line) →
    Text.size before.flatten ≤ d.offset p ∧
      d.offset p ≤ Text.size before.flatten + Text.size (Text.lineContent line) ∧
        (d.position (d.offset p)).line = before.length
  /-- Beyond it the offset is the end of the content on the last line only. -/
  beyond : Text.units (Text.lineContent line) < p.character →
    (d.offset p = Text.size before.flatten + Text.size (Text.lineContent line) ↔ after = [])
  comesBack : (d.position (d.offset p)).line = before.length ↔
    after = [] ∨ p.character < Text.units line
  /-- Behind the break the next line starts. -/
  next : after ≠ [] → Text.units line ≤ p.character →
    d.position (d.offset p) = ⟨before.length + 1, 0⟩

theorem clamped_last (same : d.lines = before ++ [line])
    (offset : d.offset p = Text.size before.flatten + Text.bytesOfUnits line p.character) :
    Clamped d p before line [] := by
  have whole : Text.lineContent line = line := (broken_of_lines same).content_last
  have back := position_of_stays same offset (.inl rfl)
  have inside := Text.bytesOfUnits_le line p.character
  constructor
  · intro _
    rw [whole]
    exact ⟨by omega, by omega, back⟩
  · intro beyond
    rw [whole] at beyond
    refine iff_of_true ?_ rfl
    rw [whole, offset, Text.bytesOfUnits_of_le (Nat.le_of_lt beyond)]
  · exact iff_of_true back (.inl rfl)
  · exact fun more => absurd rfl more

theorem clamped_inner {next : Text} (same : d.lines = before ++ line :: next :: after)
    (offset : d.offset p = Text.size before.flatten + Text.bytesOfUnits line p.character) :
    Clamped d p before line (next :: after) := by
  obtain ⟨brk, ends, whole⟩ := (broken_of_lines same).content_break
  have longer : Text.units line = Text.units (Text.lineContent line) + Text.units brk := by
    rw [← Text.units_append, ← whole]
  have wide : 0 < Text.units brk := by
    obtain ⟨c, more, rfl, -⟩ := ends.starts
    exact Text.units_pos (List.cons_ne_nil c more)
  have leaves := position_of_leaves same offset (List.cons_ne_nil _ _)
  constructor
  · intro inside
    have early := Text.bytesOfUnits_le (Text.lineContent line) p.character
    rw [← Text.bytesOfUnits_append_of_le inside brk, ← whole] at early
    exact ⟨by omega, by omega, position_of_stays same offset (.inr (by omega))⟩
  · intro beyond
    have later := Text.lt_bytesOfUnits_break ends beyond
    rw [← whole] at later
    exact iff_of_false (by omega) (List.cons_ne_nil _ _)
  · constructor
    · intro back
      right
      by_contra behind
      rw [leaves (Nat.le_of_not_lt behind)] at back
      simp at back
    · exact position_of_stays same offset
  · exact fun _ => leaves

/-- A position with a character beyond the content of its line is taken as the end of the content
on the last line. On any other line it is taken as a place behind that end, and from there the line
comes back as long as the character does not lie behind the break, too; then it is the start of the
next line. -/
theorem offset_clamps (d : Document) (p : Position) :
    ∃ before line after, d.lines = before ++ line :: after ∧
      before.length = min p.line (d.lines.length - 1) ∧ Clamped d p before line after := by
  obtain ⟨before, line, after, same, there⟩ := d.exists_line p
  have offset : d.offset p = Text.size before.flatten + Text.bytesOfUnits line p.character := by
    rw [Document.offset, same, offsetIn_append p there]
  refine ⟨before, line, after, same, ?_, ?_⟩
  · rw [same, List.length_append, List.length_cons]
    omega
  · cases after with
    | nil => exact clamped_last same offset
    | cons next after => exact clamped_inner same offset

/-- Between the two characters of a break, which is still on the line, and behind them. -/
theorem offset_clamps_pair :
    let d : Document := ⟨['a', '\r', '\n', 'b']⟩
    d.lines = [['a', '\r', '\n'], ['b']] ∧
      d.offset ⟨0, 2⟩ ≠ 1 ∧ (d.position (d.offset ⟨0, 2⟩)).line = 0 ∧
      d.position (d.offset ⟨0, 3⟩) = ⟨1, 0⟩ ∧ d.offset ⟨1, 7⟩ = 4 := by
  intro d
  have lines : d.lines = [['a', '\r', '\n'], ['b']] := by decide
  have first : ∀ character, Clamped d ⟨0, character⟩ [] ['a', '\r', '\n'] [['b']] := by
    intro character
    obtain ⟨before, line, after, same, number, clamped⟩ := offset_clamps d ⟨0, character⟩
    obtain rfl := List.eq_nil_of_length_eq_zero (number.trans (Nat.zero_min _))
    rw [lines] at same
    cases same
    exact clamped
  have second : Clamped d ⟨1, 7⟩ [['a', '\r', '\n']] ['b'] [] := by
    obtain ⟨before, line, after, same, number, clamped⟩ := offset_clamps d ⟨1, 7⟩
    obtain ⟨only, rfl⟩ := List.length_eq_one_iff.mp (number : before.length = 1)
    rw [lines] at same
    cases same
    exact clamped
  refine ⟨lines, ?_, ?_, ?_, ?_⟩
  · exact fun atEnd => absurd (((first 2).beyond (by decide)).mp atEnd) (List.cons_ne_nil _ _)
  · exact (first 2).comesBack.mpr (.inr (by decide))
  · exact (first 3).next (List.cons_ne_nil _ _) (by decide)
  · exact (second.beyond (by decide)).mpr rfl

/-- A character beyond the content of the first line leads to the second line. -/
theorem offset_leaves_line :
    let d : Document := ⟨['a', '\n', 'b']⟩
    let p : Position := ⟨0, 5⟩
    min p.line (d.lines.length - 1) = 0 ∧ Text.lineContent ['a', '\n'] = ['a'] ∧
      d.offset p ≠ Text.size ['a'] ∧ (d.position (d.offset p)).line ≠ 0 := by
  decide

end Document

end MetricQuery
