import MetricQuery.Proofs.Boundary
import MetricQuery.Proofs.Rounds
import MetricQuery.Server.Snippet

/-!
Numbered placeholders. A template is its placeholders and the texts around them in one way only,
and numbering writes a number into each placeholder and nothing else. The loop that walks the
template by byte offsets ends with the same text: whatever its two searches find, each slice it
takes begins and ends between two characters.
-/

set_option autoImplicit false

namespace MetricQuery

namespace Text

/-- `before` stands before the first occurrence of `pattern` in `t`. -/
def First (pattern t before : Text) : Prop :=
  before ++ pattern <+: t ∧ ∀ other, other ++ pattern <+: t → before.length ≤ other.length

theorem First.unique {pattern t before before' : Text} (first : First pattern t before)
    (first' : First pattern t before') : before = before' := by
  have same : before.length = before'.length :=
    Nat.le_antisymm (first.2 before' first'.1) (first'.2 before first.1)
  have front : before <+: t := (List.prefix_append before pattern).trans first.1
  have front' : before' <+: t := (List.prefix_append before' pattern).trans first'.1
  exact (List.prefix_of_prefix_length_le front front' (Nat.le_of_eq same)).eq_of_length same

theorem cutAt?_sound {pattern t before after : Text}
    (found : cutAt? pattern t = some (before, after)) :
    t = before ++ (pattern ++ after) ∧ First pattern t before := by
  induction t generalizing before with
  | nil =>
    cases pattern with
    | nil =>
      cases found
      exact ⟨rfl, List.prefix_rfl, fun other _ => Nat.zero_le _⟩
    | cons c pattern => cases found
  | cons c t ih =>
    rw [cutAt?] at found
    split at found
    · rename_i here
      obtain ⟨tail, same⟩ := List.isPrefixOf_iff_prefix.mp here
      rw [← same, List.drop_left] at found
      cases found
      exact ⟨same.symm, ⟨after, same⟩, fun other _ => Nat.zero_le _⟩
    · rename_i elsewhere
      obtain ⟨⟨b, a⟩, later, same⟩ := Option.map_eq_some_iff.mp found
      cases same
      obtain ⟨whole, first⟩ := ih later
      refine ⟨by rw [whole]; rfl, List.cons_prefix_cons.mpr ⟨rfl, first.1⟩, fun other occurs => ?_⟩
      cases other with
      | nil => exact absurd (List.isPrefixOf_iff_prefix.mpr occurs) elsewhere
      | cons d other =>
        have shorter := first.2 other (List.cons_prefix_cons.mp occurs).2
        exact Nat.succ_le_succ shorter

/-- A cut that fails means that the pattern occurs nowhere. -/
theorem not_infix_of_cutAt? {pattern t : Text} (missing : cutAt? pattern t = none) :
    ¬ pattern <:+: t := by
  induction t with
  | nil =>
    cases pattern with
    | nil => cases missing
    | cons c pattern => simp
  | cons c t ih =>
    rw [cutAt?] at missing
    split at missing
    · cases missing
    · rename_i elsewhere
      rw [Option.map_eq_none_iff] at missing
      rw [List.infix_cons_iff, not_or]
      exact ⟨fun here => elsewhere (List.isPrefixOf_iff_prefix.mpr here), ih missing⟩

theorem cutAt?_of_first {pattern t before after : Text} (whole : t = before ++ (pattern ++ after))
    (first : First pattern t before) : cutAt? pattern t = some (before, after) := by
  cases found : cutAt? pattern t with
  | none => exact absurd ⟨before, after, by simp [whole]⟩ (not_infix_of_cutAt? found)
  | some cut =>
    obtain ⟨before', after'⟩ := cut
    obtain ⟨whole', first'⟩ := cutAt?_sound found
    obtain rfl := first.unique first'
    obtain rfl := List.append_cancel_left (List.append_cancel_left (whole.symm.trans whole'))
    rfl

/-- A text without a character stands before its first occurrence. -/
theorem First.of_not_mem {c : Char} {before after : Text} (free : c ∉ before) :
    First [c] (before ++ ([c] ++ after)) before := by
  refine ⟨⟨after, List.append_assoc _ _ _⟩, fun other ⟨tail, same⟩ => ?_⟩
  refine Nat.le_of_not_lt fun shorter => ?_
  have inside : other ++ [c] <+: before := by
    refine List.prefix_of_prefix_length_le ⟨tail, same⟩ (List.prefix_append _ _) ?_
    simp only [List.length_append, List.length_cons, List.length_nil]
    omega
  exact free (inside.mem (by simp))

theorem First.not_mem {c : Char} {t before : Text} (first : First [c] t before) : c ∉ before := by
  intro member
  obtain ⟨front, back, rfl⟩ := List.append_of_mem member
  have earlier : front ++ [c] <+: t := by
    refine List.IsPrefix.trans ⟨back ++ [c], ?_⟩ first.1
    simp
  have shorter := first.2 front earlier
  simp only [List.length_append, List.length_cons] at shorter
  omega

/-- The byte offset of the first occurrence of a pattern. -/
def find? (pattern t : Text) : Option Nat := (cutAt? pattern t).map fun cut => size cut.1

end Text

namespace Snippet

variable {t : Text} {parts : Parts}

/-- The template that is made of some parts. -/
def Parts.template (parts : Parts) : Text :=
  (parts.placeholders.map fun (before, name) => before ++ opening ++ name ++ closing).flatten ++
    parts.rest

/-- The parts with the number of each placeholder, in decimal, before its name. -/
def Parts.numbered (parts : Parts) : Text :=
  (parts.placeholders.mapIdx fun i (before, name) =>
    before ++ opening ++ (toString (i + 1)).toList ++ [':'] ++ name ++ closing).flatten ++
    parts.rest

/-- What it is for a template to be split into parts. -/
structure Splits (t : Text) (parts : Parts) : Prop where
  whole : t = parts.template
  /-- A placeholder opens at the first opening after the placeholders before it. -/
  opens : ∀ done before name more, parts.placeholders = done ++ (before, name) :: more →
    Text.First opening (Parts.template ⟨(before, name) :: more, parts.rest⟩) before
  /-- It closes at the first brace that can close it. -/
  closes : ∀ placeholder ∈ parts.placeholders, '}' ∉ placeholder.2
  /-- Nothing that opens behind the last placeholder is closed. -/
  unclosed : ¬ ∃ a b c, parts.rest = a ++ opening ++ b ++ closing ++ c

theorem splits_nil_iff {rest : Text} :
    Splits t ⟨[], rest⟩ ↔ t = rest ∧ ¬ ∃ a b c, t = a ++ opening ++ b ++ closing ++ c := by
  constructor
  · rintro ⟨whole, -, -, unclosed⟩
    obtain rfl : t = rest := whole
    exact ⟨rfl, unclosed⟩
  · rintro ⟨rfl, unclosed⟩
    refine ⟨rfl, fun done before name more same => ?_, fun _ member => ?_, unclosed⟩
    · cases done <;> cases same
    · cases member

theorem splits_cons_iff {before name rest : Text} {more : List (Text × Text)} :
    Splits t ⟨(before, name) :: more, rest⟩ ↔
      ∃ after, t = before ++ (opening ++ (name ++ (closing ++ after))) ∧
        Text.First opening t before ∧ '}' ∉ name ∧ Splits after ⟨more, rest⟩ := by
  have template : Parts.template ⟨(before, name) :: more, rest⟩ =
      before ++ (opening ++ (name ++ (closing ++ Parts.template ⟨more, rest⟩))) := by
    simp [Parts.template]
  constructor
  · rintro ⟨rfl, opens, closes, unclosed⟩
    refine ⟨Parts.template ⟨more, rest⟩, template, opens [] before name more rfl,
      closes _ List.mem_cons_self, rfl, fun done b n m same => ?_,
      fun p member => closes p (List.mem_cons_of_mem _ member), unclosed⟩
    exact opens ((before, name) :: done) b n m (congrArg ((before, name) :: ·) same)
  · rintro ⟨after, whole, first, free, later⟩
    have later_whole : after = Parts.template ⟨more, rest⟩ := later.whole
    refine ⟨by rw [template, whole, later_whole], fun done b n m same => ?_, ?_, later.unclosed⟩
    · cases done with
      | nil =>
        cases same
        rw [template, ← later_whole, ← whole]
        exact first
      | cons p done =>
        cases same
        exact later.opens done b n m rfl
    · rintro p member
      obtain rfl | member := List.mem_cons.mp member
      · exact free
      · exact later.closes p member

/-- What opens behind the first opening opens behind all that is closed. -/
theorem unclosed_of_cutAt? {before inside : Text}
    (opened : Text.cutAt? opening t = some (before, inside))
    (open_ended : Text.cutAt? closing inside = none) :
    ¬ ∃ a b c, t = a ++ opening ++ b ++ closing ++ c := by
  rintro ⟨a, b, c, whole⟩
  obtain ⟨found, first⟩ := Text.cutAt?_sound opened
  have shorter := first.2 a ⟨b ++ closing ++ c, by simp [whole]⟩
  refine Text.not_infix_of_cutAt? open_ended ?_
  have front : before ++ opening <+: a ++ opening := by
    refine List.prefix_of_prefix_length_le first.1 ⟨b ++ closing ++ c, by simp [whole]⟩ ?_
    simpa using shorter
  obtain ⟨between, same⟩ := front
  refine ⟨between ++ b, c, ?_⟩
  refine (List.append_right_inj (before ++ opening)).mp ?_
  rw [List.append_assoc before opening inside, ← found, whole, ← same]
  simp

theorem splits_split (t : Text) : Splits t (split t) := by
  fun_induction split t with
  | case1 t unopened =>
    refine splits_nil_iff.mpr ⟨rfl, ?_⟩
    rintro ⟨a, b, c, whole⟩
    exact Text.not_infix_of_cutAt? unopened ⟨a, b ++ closing ++ c, by simp [whole]⟩
  | case2 t before inside opened open_ended =>
    exact splits_nil_iff.mpr ⟨rfl, unclosed_of_cutAt? opened open_ended⟩
  | case3 t before inside opened name after closed shorter more ih =>
    obtain ⟨whole, first⟩ := Text.cutAt?_sound opened
    obtain ⟨inner, closes⟩ := Text.cutAt?_sound closed
    exact splits_cons_iff.mpr ⟨after, by rw [whole, inner], first, closes.not_mem, ih⟩

theorem Splits.eq_split (splits : Splits t parts) : parts = split t := by
  obtain ⟨placeholders, rest⟩ := parts
  induction placeholders generalizing t with
  | nil =>
    obtain ⟨rfl, unclosed⟩ := splits_nil_iff.mp splits
    fun_cases split t with
    | case1 => rfl
    | case2 => rfl
    | case3 before inside opened name after closed =>
      obtain ⟨whole, -⟩ := Text.cutAt?_sound opened
      obtain ⟨inner, -⟩ := Text.cutAt?_sound closed
      exact absurd ⟨before, name, after, by rw [whole, inner]; simp⟩ unclosed
  | cons placeholder more ih =>
    obtain ⟨before, name⟩ := placeholder
    obtain ⟨after, whole, first, free, later⟩ := splits_cons_iff.mp splits
    have opened := Text.cutAt?_of_first whole first
    have closed : Text.cutAt? closing (name ++ (closing ++ after)) = some (name, after) :=
      Text.cutAt?_of_first rfl (Text.First.of_not_mem free)
    have same := ih later
    fun_cases split t with
    | case1 unopened => cases opened.symm.trans unopened
    | case2 b inside opened' open_ended =>
      cases opened.symm.trans opened'
      cases closed.symm.trans open_ended
    | case3 b inside opened' n a closed' =>
      cases opened.symm.trans opened'
      cases closed.symm.trans closed'
      exact congrArg (fun p : Parts => Parts.mk ((before, name) :: p.placeholders) p.rest) same

theorem writeNumbered_eq (n : Nat) (placeholders : List (Text × Text)) :
    writeNumbered n placeholders =
      (placeholders.mapIdx fun i (before, name) =>
        before ++ opening ++ (toString (i + n)).toList ++ [':'] ++ name ++ closing).flatten := by
  induction placeholders generalizing n with
  | nil => rfl
  | cons placeholder more ih =>
    obtain ⟨before, name⟩ := placeholder
    rw [writeNumbered, ih, List.mapIdx_cons, List.flatten_cons, Nat.zero_add]
    simp only [Nat.add_right_comm, Nat.add_assoc]

theorem number_eq (t : Text) : number t = (split t).numbered :=
  congrArg (· ++ _) (writeNumbered_eq 1 _)

/-- How far the walk over a template has come: what is written, what is left, and the number of
the next placeholder. -/
structure Walk where
  out : Text
  rest : Text
  index : Nat

/-- One round of the walk, by byte offsets. It ends with the text written, or with nothing where
an offset falls inside a character. -/
def round (w : Walk) : Walk ⊕ Option Text :=
  match Text.find? opening w.rest with
  | none => .inr (some (w.out ++ w.rest))
  | some start =>
    match Text.dropBytes? w.rest start with
    | none => .inr none
    | some tail =>
      match Text.find? closing tail with
      | none => .inr (some (w.out ++ w.rest))
      | some stop =>
        match Text.slice? w.rest 0 start, Text.slice? w.rest (start + 2) (start + stop),
          Text.dropBytes? w.rest (start + stop + 1) with
        | some before, some name, some rest =>
          .inl ⟨w.out ++ before ++
            (opening ++ (toString w.index).toList ++ [':'] ++ name ++ closing), rest, w.index + 1⟩
        | _, _, _ => .inr none

theorem find?_closing {inside : Text} :
    Text.find? closing (opening ++ inside) = (Text.find? closing inside).map (2 + ·) := by
  have dollar : closing.isPrefixOf ('$' :: '{' :: inside) = false := rfl
  have brace : closing.isPrefixOf ('{' :: inside) = false := rfl
  rw [opening, List.cons_append, List.cons_append, List.nil_append, Text.find?, Text.cutAt?,
    if_neg (by rw [dollar]; decide), Text.cutAt?, if_neg (by rw [brace]; decide), Text.find?]
  cases Text.cutAt? closing inside with
  | none => rfl
  | some cut => exact congrArg some (Nat.add_assoc 1 1 (Text.size cut.1)).symm

theorem round_open {w : Walk} {before inside : Text}
    (opened : Text.cutAt? opening w.rest = some (before, inside))
    (open_ended : Text.cutAt? closing inside = none) :
    round w = .inr (some (w.out ++ w.rest)) := by
  obtain ⟨whole, -⟩ := Text.cutAt?_sound opened
  have start : Text.find? opening w.rest = some (Text.size before) := by
    rw [Text.find?, opened]
    rfl
  have tail : Text.dropBytes? w.rest (Text.size before) = some (opening ++ inside) := by
    rw [whole]
    exact Text.dropBytes?_append _ _
  have stop : Text.find? closing (opening ++ inside) = none := by
    rw [find?_closing, Text.find?, open_ended]
    rfl
  simp only [round, start, tail, stop]

theorem round_closed {w : Walk} {before inside name after : Text}
    (opened : Text.cutAt? opening w.rest = some (before, inside))
    (closed : Text.cutAt? closing inside = some (name, after)) :
    round w = .inl ⟨w.out ++ before ++
      (opening ++ (toString w.index).toList ++ [':'] ++ name ++ closing), after, w.index + 1⟩ := by
  obtain ⟨whole, -⟩ := Text.cutAt?_sound opened
  obtain ⟨inner, -⟩ := Text.cutAt?_sound closed
  subst inner
  have start : Text.find? opening w.rest = some (Text.size before) := by
    rw [Text.find?, opened]
    rfl
  have tail : Text.dropBytes? w.rest (Text.size before) =
      some (opening ++ (name ++ (closing ++ after))) := by
    rw [whole]
    exact Text.dropBytes?_append _ _
  have stop : Text.find? closing (opening ++ (name ++ (closing ++ after))) =
      some (2 + Text.size name) := by
    rw [find?_closing, Text.find?, closed]
    rfl
  have front : Text.slice? w.rest 0 (Text.size before) = some before := by
    rw [whole]
    simpa using Text.slice?_append [] before (opening ++ (name ++ (closing ++ after)))
  have middle : Text.slice? w.rest (Text.size before + 2)
      (Text.size before + (2 + Text.size name)) = some name := by
    have sliced := Text.slice?_append (before ++ opening) name (closing ++ after)
    rw [List.append_assoc, ← whole, Text.size_append, Nat.add_assoc] at sliced
    exact sliced
  have back : Text.dropBytes? w.rest (Text.size before + (2 + Text.size name) + 1) =
      some after := by
    have dropped := Text.dropBytes?_append (before ++ opening ++ name ++ closing) after
    simp only [Text.size_append, List.append_assoc, ← whole] at dropped
    exact dropped
  simp only [round, start, tail, stop, front, middle, back]

/-- Each round that goes on leaves less of the template, so the walk ends; wherever it starts from,
it writes the placeholders of what is left. -/
theorem walk_ends (w : Walk) :
    Ends round w (some (w.out ++
      (writeNumbered w.index (split w.rest).placeholders ++ (split w.rest).rest))) := by
  obtain ⟨out, t, n⟩ := w
  dsimp only
  fun_induction split t generalizing out n with
  | case1 t unopened =>
    refine .stop ?_
    simp only [round, Text.find?, unopened]
    rfl
  | case2 t before inside opened open_ended => exact .stop (round_open opened open_ended)
  | case3 t before inside opened name after closed shorter more ih =>
    refine .next (round_closed opened closed) ?_
    have later := ih (out ++ before ++
      (opening ++ (toString n).toList ++ [':'] ++ name ++ closing)) (n + 1)
    simp only [writeNumbered, List.append_assoc] at later ⊢
    exact later

/-- A template is split into placeholders in one way only; numbering writes the same parts with a
number in each placeholder, and the walk by byte offsets ends with just that. -/
theorem number_splits (t : Text) :
    ∃ parts, (∀ other, Splits t other ↔ other = parts) ∧ number t = parts.numbered ∧
      Ends round ⟨[], t, 1⟩ (some parts.numbered) := by
  refine ⟨split t, fun other => ⟨Splits.eq_split, fun same => same ▸ splits_split t⟩,
    number_eq t, ?_⟩
  rw [← number_eq]
  exact walk_ends ⟨[], t, 1⟩

/-- Openings inside a placeholder, a brace behind one, and an opening that is never closed. -/
example :
    number "é$\x7ba$\x7bb\x7dç$\x7b\x7d\x7d$\x7bd".toList =
      "é$\x7b1:a$\x7bb\x7dç$\x7b2:\x7d\x7d$\x7bd".toList := by
  cbv

end Snippet

end MetricQuery
