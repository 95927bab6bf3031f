import MetricQuery.Proofs.IndexSpaces

/-!
Positions in a document by way of its indices. A position goes to a line, to the characters that
the line starts and ends at, to units, clamped to the end of the line, and back over a character to
a byte; a byte goes to its character, to the line that holds it, and to the units between the two.
From this the two maps between bytes and positions take their laws: a byte offset comes back from
its position as the boundary at or below it, and the order of offsets is the order of positions.
-/

set_option autoImplicit false

namespace MetricQuery

namespace Text

/-- Every line but the last takes a character. -/
theorem length_splitLines_le (t : Text) : (splitLines t).length ≤ t.length + 1 := by
  have extended : ∀ (c : Char) (lines : List Text), lines ≠ [] →
      (extendFirst c lines).length = lines.length := by
    intro c lines some
    cases lines with
    | nil => exact absurd rfl some
    | cons line lines => rfl
  fun_induction splitLines t with
  | case1 => exact Nat.le_refl 1
  | case2 t ih =>
    simp only [List.length_cons]
    omega
  | case3 c t _ _ ih =>
    simp only [List.length_cons]
    omega
  | case4 c t _ _ ih =>
    rw [extended c _ (splitLines_ne_nil t), List.length_cons]
    omega

theorem length_le_size (t : Text) : t.length ≤ size t := by
  induction t with
  | nil => exact Nat.le_refl 0
  | cons c t ih =>
    have wide := c.utf8Size_pos
    rw [List.length_cons, size_cons]
    omega

/-- A character that takes two units takes four bytes. -/
theorem charUnits_le (c : Char) : charUnits c ≤ c.utf8Size := by
  rw [charUnits]
  split
  · exact c.utf8Size_pos
  · rename_i beyond
    unfold Char.utf8Size
    dsimp only
    split
    · rename_i ascii
      have code : c.toNat ≤ 127 := UInt32.le_iff_toNat_le.mp ascii
      omega
    · split
      · exact Nat.le_refl 2
      · split
        · exact Nat.le_succ 2
        · exact Nat.le_add_left 2 2

theorem units_le_size (t : Text) : units t ≤ size t := by
  induction t with
  | nil => exact Nat.le_refl 0
  | cons c t ih =>
    have narrow := charUnits_le c
    rw [units, size_cons]
    omega

end Text

/-- The order of positions: by line, and within a line by character. -/
def Position.Le (p q : Position) : Prop :=
  p.line < q.line ∨ p.line = q.line ∧ p.character ≤ q.character

namespace Document

variable (d : Document)

/-- The character that holds a byte. -/
def charOfByte (byte : Nat) : Nat := indexAt Char.utf8Size d.text byte

/-- The byte at which a character starts. -/
def byteOfChar (char : Nat) : Nat := Text.size (d.text.take char)

/-- The character that holds a unit. -/
def charOfUnit (unit : Nat) : Nat := indexAt Text.charUnits d.text unit

/-- The unit at which a character starts. -/
def unitOfChar (char : Nat) : Nat := Text.units (d.text.take char)

/-- The character at which a line starts. -/
def charOfLine (line : Nat) : Nat := extent List.length (d.lines.take line)

/-- The line that holds a character; the last line holds the end of the text. -/
def lineOfChar (char : Nat) : Nat := min (indexAt List.length d.lines char) (d.lines.length - 1)

/-- The byte offset of a position, by way of the indices. -/
def offsetByIndex (p : Position) : Nat :=
  let line := min p.line (d.lines.length - 1)
  let start := d.charOfLine line
  let stop := start + (d.lines.getD line []).length
  let unit := min (d.unitOfChar start + p.character) (d.unitOfChar stop)
  d.byteOfChar (d.charOfUnit unit)

/-- The position of a byte offset, by way of the indices. -/
def positionByIndex (offset : Nat) : Position :=
  let char := d.charOfByte (min offset (Text.size d.text))
  let line := d.lineOfChar char
  ⟨line, d.unitOfChar char - d.unitOfChar (d.charOfLine line)⟩

theorem flatten_lines : d.lines.flatten = d.text := Text.flatten_splitLines d.text

variable {before after : List Text} {line : Text}

/-- A position on a line is counted from behind the lines before it. -/
theorem offsetIn_append (p : Position)
    (there : before.length = min p.line (before.length + after.length)) :
    offsetIn (before ++ line :: after) p =
      Text.size before.flatten + Text.bytesOfUnits line p.character := by
  obtain ⟨number, character⟩ := p
  dsimp only at there ⊢
  induction before generalizing number with
  | nil =>
    cases after with
    | nil => simp [offsetIn]
    | cons next after =>
      obtain rfl : number = 0 := by
        simp only [List.length_nil, List.length_cons, Nat.zero_add] at there
        omega
      simp [offsetIn]
  | cons first before ih =>
    simp only [List.length_cons] at there
    obtain ⟨number, rfl⟩ := Nat.exists_eq_succ_of_ne_zero (n := number) (by omega)
    obtain ⟨next, rest, more⟩ : ∃ next rest, before ++ line :: after = next :: rest :=
      List.exists_cons_of_ne_nil (by simp)
    have later := ih number (by omega)
    rw [more] at later
    rw [List.cons_append, more, offsetIn, later, List.flatten_cons, Text.size_append,
      Nat.add_assoc]

/-- A byte of a line is counted from behind the lines before it; so is the end of the last line. -/
theorem positionIn_append (byte : Nat) (there : byte < Text.size line ∨ after = []) :
    positionIn (before ++ line :: after) (Text.size before.flatten + byte) =
      ⟨before.length, Text.unitsOfBytes line byte⟩ := by
  induction before with
  | nil =>
    cases after with
    | nil => simp [positionIn]
    | cons next after =>
      have inside := there.resolve_right (List.cons_ne_nil _ _)
      simp [positionIn, inside]
  | cons first before ih =>
    have apart : ¬ Text.size first + Text.size before.flatten + byte < Text.size first := by omega
    have behind : Text.size first + Text.size before.flatten + byte - Text.size first =
        Text.size before.flatten + byte := by omega
    obtain ⟨next, rest, more⟩ : ∃ next rest, before ++ line :: after = next :: rest :=
      List.exists_cons_of_ne_nil (by simp)
    rw [List.cons_append, List.flatten_cons, Text.size_append, more, positionIn, if_neg apart,
      behind, ← more, ih]
    rfl

/-- A line number cut off at the last line is that of a line. -/
theorem min_lt_length (number : Nat) : min number (d.lines.length - 1) < d.lines.length := by
  have some := List.length_pos_iff.mpr (Text.splitLines_ne_nil d.text)
  exact Nat.lt_of_le_of_lt (Nat.min_le_right _ _) (Nat.sub_lt some Nat.one_pos)

/-- The line of a position, among the lines before and after it. -/
theorem exists_line (p : Position) :
    ∃ before line after, d.lines = before ++ line :: after ∧
      before.length = min p.line (before.length + after.length) := by
  have inside := d.min_lt_length p.line
  refine ⟨d.lines.take (min p.line (d.lines.length - 1)), d.lines[min p.line (d.lines.length - 1)],
    d.lines.drop (min p.line (d.lines.length - 1) + 1), ?_, ?_⟩
  · rw [← List.drop_eq_getElem_cons inside, List.take_append_drop]
  · rw [List.length_take, List.length_drop]
    omega

/-- The line of a byte; the last line holds whatever lies behind it. -/
theorem exists_line_of_byte (byte : Nat) :
    ∃ before line after rest, d.lines = before ++ line :: after ∧
      byte = Text.size before.flatten + rest ∧ (rest < Text.size line ∨ after = []) := by
  have some : d.lines ≠ [] := Text.splitLines_ne_nil d.text
  generalize d.lines = lines at some
  induction lines generalizing byte with
  | nil => exact absurd rfl some
  | cons first lines ih =>
    by_cases here : byte < Text.size first ∨ lines = []
    · exact ⟨[], first, lines, byte, rfl, by simp, here⟩
    · obtain ⟨behind, more⟩ := not_or.mp here
      obtain ⟨before, line, after, rest, rfl, same, there⟩ := ih (byte - Text.size first) more
      refine ⟨first :: before, line, after, rest, rfl, ?_, there⟩
      rw [List.flatten_cons, Text.size_append]
      omega

theorem text_of_lines (same : d.lines = before ++ line :: after) :
    d.text = before.flatten ++ (line ++ after.flatten) := by
  rw [← d.flatten_lines, same, List.flatten_append, List.flatten_cons]

/-- The place of a character in a line, counted in units from the start of the text. -/
theorem unitOfChar_append (same : d.lines = before ++ line :: after) {char : Nat}
    (inside : char ≤ line.length) :
    d.unitOfChar (before.flatten.length + char) =
      Text.units before.flatten + Text.units (line.take char) := by
  rw [unitOfChar, d.text_of_lines same, Text.units_eq_extent, extent_take_append,
    List.take_append_of_le_length inside, Text.units_eq_extent, Text.units_eq_extent]

theorem unitOfChar_start (same : d.lines = before ++ line :: after) :
    d.unitOfChar before.flatten.length = Text.units before.flatten :=
  d.unitOfChar_append same (Nat.zero_le _)

theorem byteOfChar_append (same : d.lines = before ++ line :: after) {char : Nat}
    (inside : char ≤ line.length) :
    d.byteOfChar (before.flatten.length + char) =
      Text.size before.flatten + Text.size (line.take char) := by
  rw [byteOfChar, d.text_of_lines same, Text.size_eq_extent, extent_take_append,
    List.take_append_of_le_length inside, Text.size_eq_extent, Text.size_eq_extent]

theorem charOfLine_append (same : d.lines = before ++ line :: after) :
    d.charOfLine before.length = before.flatten.length := by
  rw [charOfLine, same, List.take_left, extent_length]

/-- The offset of a position is the one that its indices lead to. -/
theorem offset_eq (p : Position) : d.offset p = d.offsetByIndex p := by
  obtain ⟨before, line, after, same, there⟩ := d.exists_line p
  have number : min p.line (d.lines.length - 1) = before.length := by
    rw [same, List.length_append, List.length_cons]
    omega
  have found : d.lines.getD before.length [] = line := by simp [same]
  have stop := d.unitOfChar_append same (Nat.le_refl line.length)
  rw [List.take_length] at stop
  have clamped : min (Text.units before.flatten + p.character)
      (Text.units before.flatten + Text.units line) =
        Text.units before.flatten + min p.character (Text.units line) := by omega
  have char : d.charOfUnit (Text.units before.flatten + min p.character (Text.units line)) =
      before.flatten.length + indexAt Text.charUnits line p.character := by
    rw [charOfUnit, d.text_of_lines same, indexAt_append,
      if_pos (by rw [Text.units_eq_extent]; omega), Text.units_eq_extent,
      Nat.add_sub_cancel_left, Text.units_eq_extent,
      indexAt_append_of_le (fun c _ => Text.charUnits_pos c) (Nat.min_le_right _ _), indexAt_min]
  calc d.offset p
    _ = Text.size before.flatten + Text.bytesOfUnits line p.character := by
      rw [offset, same, offsetIn_append p there]
    _ = d.byteOfChar (before.flatten.length + indexAt Text.charUnits line p.character) := by
      rw [d.byteOfChar_append same (indexAt_le_length _ _), Text.bytesOfUnits_eq]
    _ = d.offsetByIndex p := by
      simp only [offsetByIndex, number, found, d.charOfLine_append same,
        d.unitOfChar_start same, stop, clamped, char]

/-- The position of an offset is the one that its indices lead to. -/
theorem position_eq (byte : Nat) : d.position byte = d.positionByIndex byte := by
  obtain ⟨before, line, after, rest, same, rfl, there⟩ := d.exists_line_of_byte byte
  -- The character of the byte is one of the line, or the end of the last line.
  have here : indexAt Char.utf8Size (line ++ after.flatten) rest =
      indexAt Char.utf8Size line rest := by
    rcases there with inside | rfl
    · rw [indexAt_append, if_neg (by rw [← Text.size_eq_extent]; omega)]
    · rw [List.flatten_nil, List.append_nil]
  have char : d.charOfByte (min (Text.size before.flatten + rest) (Text.size d.text)) =
      before.flatten.length + indexAt Char.utf8Size line rest := by
    rw [charOfByte, Text.size_eq_extent d.text, indexAt_min, d.text_of_lines same, indexAt_append,
      if_pos (by rw [Text.size_eq_extent]; omega), Text.size_eq_extent, Nat.add_sub_cancel_left,
      here]
  have number : d.lineOfChar (before.flatten.length + indexAt Char.utf8Size line rest) =
      before.length := by
    rw [lineOfChar, same, indexAt_append, extent_length, if_pos (Nat.le_add_right _ _),
      Nat.add_sub_cancel_left, List.length_append, List.length_cons, indexAt]
    rcases there with inside | rfl
    · have short := Text.indexAt_bytes_lt inside
      rw [if_neg (by omega)]
      omega
    · rw [List.length_nil]
      omega
  calc d.position (Text.size before.flatten + rest)
    _ = ⟨before.length, Text.unitsOfBytes line rest⟩ := by
      rw [position, same, positionIn_append rest there]
    _ = d.positionByIndex (Text.size before.flatten + rest) := by
      simp only [positionByIndex, char, number, d.charOfLine_append same,
        d.unitOfChar_start same,
        d.unitOfChar_append same (indexAt_le_length _ _), Nat.add_sub_cancel_left,
        Text.unitsOfBytes_eq]

/-- A line starts no later than a character that it holds, and ends no earlier. -/
theorem charOfLine_bounds {char : Nat} (inside : char ≤ d.text.length) :
    d.charOfLine (d.lineOfChar char) ≤ char ∧
      char ≤ d.charOfLine (d.lineOfChar char) +
        (d.lines.getD (d.lineOfChar char) []).length := by
  have below : d.lineOfChar char < d.lines.length := d.min_lt_length _
  constructor
  · exact (le_indexAt_iff (Nat.le_of_lt below)).mp (Nat.min_le_left _ _)
  · have stop : d.charOfLine (d.lineOfChar char + 1) = d.charOfLine (d.lineOfChar char) +
        (d.lines.getD (d.lineOfChar char) []).length := by
      rw [charOfLine, List.take_succ_eq_append_getElem below, extent_append, extent_cons,
        extent_nil, Nat.add_zero, List.getD_eq_getElem?_getD, List.getElem?_eq_getElem below,
        Option.getD_some, charOfLine]
    rw [← stop]
    by_cases last : d.lineOfChar char + 1 = d.lines.length
    · rw [last, charOfLine, List.take_length, extent_length, d.flatten_lines]
      exact inside
    · -- No line behind this one starts at the character or before it.
      have later : ¬ d.lineOfChar char + 1 ≤ indexAt List.length d.lines char := by
        intro reached
        rw [lineOfChar] at reached last
        omega
      rw [le_indexAt_iff below] at later
      exact Nat.le_of_lt (Nat.lt_of_not_le later)

variable {d}

theorem charOfByte_le (byte : Nat) : d.charOfByte byte ≤ d.text.length := indexAt_le_length _ _

theorem unitOfChar_mono {i j : Nat} (before : i ≤ j) : d.unitOfChar i ≤ d.unitOfChar j := by
  rw [unitOfChar, unitOfChar, Text.units_eq_extent, Text.units_eq_extent]
  exact extent_take_mono d.text before

theorem charOfUnit_unitOfChar {char : Nat} (inside : char ≤ d.text.length) :
    d.charOfUnit (d.unitOfChar char) = char := by
  rw [charOfUnit, unitOfChar, Text.units_eq_extent]
  exact indexAt_extent (fun c _ => Text.charUnits_pos c) inside

/-- Carried over to a position and back, an offset is that of its character. -/
theorem offset_position_eq (byte : Nat) :
    d.offset (d.position byte) = Text.floor d.text byte := by
  have inside := charOfByte_le (d := d) (min byte (Text.size d.text))
  obtain ⟨start, stop⟩ := d.charOfLine_bounds inside
  have number : min (d.lineOfChar (d.charOfByte (min byte (Text.size d.text))))
      (d.lines.length - 1) = d.lineOfChar (d.charOfByte (min byte (Text.size d.text))) := by
    rw [lineOfChar]
    omega
  rw [d.offset_eq, d.position_eq, offsetByIndex, positionByIndex]
  dsimp only
  rw [number, Nat.add_sub_cancel' (unitOfChar_mono start),
    Nat.min_eq_left (unitOfChar_mono stop), charOfUnit_unitOfChar inside, byteOfChar, charOfByte,
    Text.size_eq_extent d.text, indexAt_min, Text.floor_eq]

theorem position_mono {b c : Nat} (before : b ≤ c) : (d.position b).Le (d.position c) := by
  have chars : d.charOfByte (min b (Text.size d.text)) ≤
      d.charOfByte (min c (Text.size d.text)) :=
    indexAt_mono d.text (by omega)
  have lines : d.lineOfChar (d.charOfByte (min b (Text.size d.text))) ≤
      d.lineOfChar (d.charOfByte (min c (Text.size d.text))) := by
    rw [lineOfChar, lineOfChar]
    have reached : indexAt List.length d.lines (d.charOfByte (min b (Text.size d.text))) ≤
        indexAt List.length d.lines (d.charOfByte (min c (Text.size d.text))) :=
      indexAt_mono d.lines chars
    omega
  rw [d.position_eq, d.position_eq, positionByIndex, positionByIndex]
  rcases Nat.lt_or_eq_of_le lines with earlier | same
  · exact .inl earlier
  · refine .inr ⟨same, ?_⟩
    dsimp only
    rw [same]
    exact Nat.sub_le_sub_right (unitOfChar_mono chars) _

/-- No position lies further than the text is long. -/
theorem position_le_size (byte : Nat) :
    (d.position byte).line ≤ Text.size d.text ∧ (d.position byte).character ≤ Text.size d.text := by
  rw [d.position_eq, positionByIndex]
  constructor
  · have lines := Text.length_splitLines_le d.text
    have chars := Text.length_le_size d.text
    have last := Nat.min_le_right (indexAt List.length d.lines
      (d.charOfByte (min byte (Text.size d.text)))) (d.lines.length - 1)
    have same : d.lines = Text.splitLines d.text := rfl
    rw [same] at last
    exact Nat.le_trans last (by omega)
  · refine Nat.le_trans (Nat.sub_le _ _) (Nat.le_trans ?_ (Text.units_le_size d.text))
    rw [unitOfChar, Text.units_eq_extent, Text.units_eq_extent]
    exact extent_take_le d.text _

/-- How many values a word of 32 bits has. -/
def wordCount : Nat := 4294967296

/-- An offset comes back from its position as the greatest boundary that is not above it, the order
of offsets is kept, and positions in a document of less than 2^32 bytes fit in words of 32 bits. -/
theorem offset_position (d : Document) :
    (∀ byte, IsGreatest {b | Text.isBoundary d.text b = true ∧ b ≤ min byte (Text.size d.text)}
      (d.offset (d.position byte))) ∧
      (∀ b c, b ≤ c → (d.position b).Le (d.position c)) ∧
      (Text.size d.text < wordCount →
        ∀ byte, (d.position byte).line < wordCount ∧ (d.position byte).character < wordCount) := by
  refine ⟨fun byte => ?_, fun b c => position_mono, fun short byte => ?_⟩
  · rw [offset_position_eq]
    exact Text.isGreatest_floor d.text byte
  · obtain ⟨line, character⟩ := position_le_size (d := d) byte
    exact ⟨Nat.lt_of_le_of_lt line short, Nat.lt_of_le_of_lt character short⟩

/-- An offset inside a character of four bytes that starts a line, and one inside a line break. -/
theorem offset_position_astral :
    let d : Document := ⟨['\u00e9', '\r', '\n', Char.ofNat 0x1f600, 'x']⟩
    d.position 3 = ⟨0, 2⟩ ∧ d.position 6 = ⟨1, 0⟩ ∧ d.offset (d.position 6) = 4 ∧
      Text.isBoundary d.text 4 = true ∧ 3 ≤ 6 ∧ (d.position 3).Le (d.position 6) ∧
      Text.size d.text < wordCount ∧ (d.position 9).character < wordCount := by
  intro d
  obtain ⟨greatest, ordered, short⟩ := offset_position d
  have back : d.offset (d.position 6) = 4 := by decide
  have boundary := (greatest 6).1.1
  rw [back] at boundary
  exact ⟨by decide, by decide, back, boundary, by decide, ordered 3 6 (by decide), by decide,
    (short (by decide) 9).2⟩

end Document

end MetricQuery
