import MetricQuery.Assistant
import MetricQuery.Proofs.Diagnostics
import MetricQuery.Proofs.IndexSpaces
import MetricQuery.Proofs.LineStarts

/-!
Ranges that a language service gives. Its positions are words of 64 bits, whatever it answers, and
become places in the text by adding a column to the start of a line. Where every sum is such a word
again, what comes of them lies in the text, in order, and where the service meant it; one sum that
is none ends the work, with nothing to show for it.
-/

set_option autoImplicit false

namespace MetricQuery

namespace Json

variable {α : Type} {read : Json → Option α} {holds : α → Prop}

/-- Whatever a reader gives has a property. -/
def Ensures (read : Json → Option α) (holds : α → Prop) : Prop :=
  ∀ value a, read value = some a → holds a

theorem ensures_natOfBits? (bits : Nat) : Ensures (natOfBits? bits) (· < Nat.pow 2 bits) := by
  intro value n found
  cases value with
  | number literal => simpa using (Option.filter_eq_some_iff.mp found).2
  | _ => cases found

namespace Ensures

variable {r : Record} {name : String} {a : α}

theorem required (sure : Ensures read holds) (found : r.required name read = some a) :
    holds a := by
  obtain ⟨value, -, here⟩ := Option.bind_eq_some_iff.mp found
  exact sure value a here

theorem optional (sure : Ensures read holds) (found : r.optional name read = some (some a)) :
    holds a := by
  rw [Record.optional] at found
  split at found
  · cases found
  · split at found
    · cases found
    · rename_i value _ _
      obtain ⟨b, here, same⟩ := Option.map_eq_some_iff.mp found
      exact sure value a (here.trans same)

theorem listOf? (sure : Ensures read holds) :
    Ensures (listOf? read) fun as => ∀ a ∈ as, holds a := by
  intro value as found
  rw [Json.listOf?, Option.bind_eq_some_iff] at found
  obtain ⟨values, -, found⟩ := found
  induction values generalizing as with
  | nil =>
    cases found
    exact List.forall_mem_nil _
  | cons value values ih =>
    simp only [List.mapM_cons, Option.bind_eq_bind, Option.bind_eq_some_iff, Option.pure_def,
      Option.some.injEq] at found
    obtain ⟨first, here, later, rest, rfl⟩ := found
    exact List.forall_mem_cons.mpr ⟨sure value first here, ih later rest⟩

end Ensures

end Json

/-- The line and the character are words of 64 bits. -/
def Position.IsWord (p : Position) : Prop :=
  p.line < Text.offsetCount ∧ p.character < Text.offsetCount

/-- Both ends are words of 64 bits. -/
def Range.IsWord (range : Range) : Prop := range.start.IsWord ∧ range.stop.IsWord

theorem Position.ensures_read? : Json.Ensures read? IsWord := by
  intro value p found
  simp only [read?, Option.bind_eq_bind, Option.bind_eq_some_iff, Option.pure_def,
    Option.some.injEq] at found
  obtain ⟨r, -, line, first, character, second, rfl⟩ := found
  exact ⟨(Json.ensures_natOfBits? 64).required first, (Json.ensures_natOfBits? 64).required second⟩

theorem Range.ensures_read? : Json.Ensures read? IsWord := by
  intro value range found
  simp only [read?, Option.bind_eq_bind, Option.bind_eq_some_iff, Option.pure_def,
    Option.some.injEq] at found
  obtain ⟨r, -, start, first, stop, second, rfl⟩ := found
  exact ⟨Position.ensures_read?.required first, Position.ensures_read?.required second⟩

theorem Edit.ensures_read? : Json.Ensures read? fun edit => edit.range.IsWord := by
  intro value edit found
  simp only [read?, Option.bind_eq_bind, Option.bind_eq_some_iff, Option.pure_def,
    Option.some.injEq] at found
  obtain ⟨r, -, range, first, newText, -, rfl⟩ := found
  exact Range.ensures_read?.required first

namespace Remote

theorem Item.ensures_read? :
    Json.Ensures read? fun item => ∀ edit, item.edit = some edit → edit.range.IsWord := by
  intro value item found edit carried
  simp only [read?, Option.bind_eq_bind, Option.bind_eq_some_iff, Option.pure_def,
    Option.some.injEq] at found
  obtain ⟨r, -, label, -, kind, -, detail, -, edit, last, rfl⟩ := found
  cases carried
  exact Edit.ensures_read?.optional last

theorem Complaint.ensures_read? : Json.Ensures read? fun c => c.range.IsWord := by
  intro value c found
  simp only [read?, Option.bind_eq_bind, Option.bind_eq_some_iff, Option.pure_def,
    Option.some.injEq] at found
  obtain ⟨r, -, range, first, severity, -, message, -, rfl⟩ := found
  exact Range.ensures_read?.required first

/-- What a reader ensures holds of all that is received. -/
theorem forall_of_receive {α : Type} {read : Json → Option α} {holds : α → Prop} {url : String}
    {answer : Option Http.Response} {items : List α} (sure : Json.Ensures read holds)
    (received : receive read url answer = .ok items) : ∀ a ∈ items, holds a := by
  unfold receive at received
  split at received
  · cases received
  dsimp only at received
  split at received
  · cases received
  split at received
  · cases received
  split at received
  · rename_i decoded
    cases received
    obtain ⟨value, -, found⟩ := Option.bind_eq_some_iff.mp decoded
    rw [readList?] at found
    split at found
    · cases found
      exact List.forall_mem_nil _
    · exact sure.listOf? value items found
  · cases received

variable {σ : Type} {service : Service} {transport : Http.Transport σ} {text : Text}
  {limit pos : Nat} {s s' : σ}

/-- What is asked for a cursor at `pos`. -/
def cursorQuery (limit : Nat) (text : Text) (pos : Nat) : Query :=
  let stop := Text.floor text pos
  ⟨String.ofList text, limit, some (Text.lineAt text stop).2,
    some (cursorCharacter (stop - (Text.lineAt text stop).1))⟩

/-- What is asked about a text as a whole. -/
def wholeQuery (limit : Nat) (text : Text) : Query := ⟨String.ofList text, limit, none, none⟩

/-- The last edit among items, which says where a completion starts. -/
def lastEdit (items : List Item) : Option Edit := items.reverse.findSome? Item.edit

/-- Every edit is at a range of words of 64 bits. -/
def AllWords (items : List Item) : Prop :=
  ∀ item ∈ items, ∀ edit, item.edit = some edit → edit.range.IsWord

/-- The column of an edit can be added to the start of the line that holds the cursor. -/
def Summable (text : Text) (pos : Nat) (last : Option Edit) : Prop :=
  ∀ edit, last = some edit →
    Text.Fits (Text.lineAt text (Text.floor text pos)).1 edit.range.start.character

/-- A completion at `pos` after an answer in which `last` is the last edit. -/
structure Completed (text : Text) (pos : Nat) (last : Option Edit) (r : CompletionResult) :
    Prop where
  stop : IsGreatest {b | Text.isBoundary text b = true ∧ b ≤ min pos (Text.size text)} r.stop
  bounds : (Text.lineAt text r.stop).1 ≤ r.start ∧ r.start ≤ r.stop ∧ r.stop ≤ Text.size text
  unedited : last = none → r.start = (Text.lineAt text r.stop).1
  meant : ∀ edit, last = some edit →
    r.start = min ((Text.lineAt text r.stop).1 + edit.range.start.character) r.stop

/-- Both columns of a complaint can be added to the starts of their lines. -/
def Complaint.Summable (text : Text) (c : Complaint) : Prop :=
  ∀ p ∈ [c.range.start, c.range.stop], Text.Fits (Text.lineStart text p.line) p.character

/-- The place that a service means, the end of the text at most. -/
def placeOf (text : Text) (p : Position) : Nat :=
  min (Text.lineStart text p.line + p.character) (Text.size text)

/-- What a service means by a complaint. -/
def Complaint.meaning (text : Text) (c : Complaint) : Diagnostic :=
  ⟨placeOf text c.range.start, max (placeOf text c.range.stop) (placeOf text c.range.start), .error,
    c.message⟩

/-- Diagnostics made of complaints about a text. -/
structure Linted (text : Text) (complaints : List Complaint) (ds : List Diagnostic) : Prop where
  all : ds.Perm (complaints.map (Complaint.meaning text))
  sorted : ds.Pairwise fun d e => d.start ≤ e.start
  bounds : ∀ d ∈ ds, d.start ≤ d.stop ∧ d.stop ≤ Text.size text

theorem replacedFrom_of_none {items : List Item} {start : Nat} (last : lastEdit items = none) :
    replacedFrom items start pos = .ok start := by
  rw [lastEdit] at last
  rw [replacedFrom, last]

theorem replacedFrom_of_some {items : List Item} {start : Nat} {edit : Edit}
    (last : lastEdit items = some edit) :
    replacedFrom items start pos =
      (Text.addOffsets start edit.range.start.character).map (min · pos) := by
  rw [lastEdit] at last
  rw [replacedFrom, last]

theorem complete_of_items {items : List Item}
    (answer : service.items transport (cursorQuery limit text pos) s = (.ok items, s')) :
    complete service transport limit text pos s =
      ((replacedFrom items (Text.lineAt text (Text.floor text pos)).1 (Text.floor text pos)).map
        fun start => some ⟨start, Text.floor text pos, items.map Item.toCandidate, none⟩, s') := by
  rw [cursorQuery] at answer
  rw [complete]
  simp only [answer]

/-- A completion starts on the line of the cursor, where the last edit says or at the start of the
line. -/
theorem completed {items : List Item} (sums : Summable text pos (lastEdit items))
    (answer : service.items transport (cursorQuery limit text pos) s = (.ok items, s')) :
    ∃ r, complete service transport limit text pos s = (.ok (some r), s') ∧
      Completed text pos (lastEdit items) r := by
  have greatest := Text.isGreatest_floor text pos
  have below : Text.floor text pos ≤ Text.size text :=
    greatest.1.2.trans (Nat.min_le_right _ _)
  have line := (Text.lineAt_holds greatest.1.1).before
  rw [complete_of_items answer]
  cases last : lastEdit items with
  | none =>
    rw [replacedFrom_of_none last]
    exact ⟨_, rfl, greatest, ⟨Nat.le_refl _, line, below⟩, fun _ => rfl,
      fun _ edited => nomatch edited⟩
  | some edit =>
    rw [replacedFrom_of_some last, Text.addOffsets_of_fits (sums edit last)]
    refine ⟨_, rfl, greatest, ⟨?_, Nat.min_le_right _ _, below⟩,
      fun unedited => absurd unedited (Option.some_ne_none edit), ?_⟩
    · exact Nat.le_min.mpr ⟨Nat.le_add_right _ _, line⟩
    · rintro _ ⟨⟩
      rfl

/-- A column that is too large for the sum ends a completion. -/
theorem complete_overflows {items : List Item} (wide : ¬ Summable text pos (lastEdit items))
    (answer : service.items transport (cursorQuery limit text pos) s = (.ok items, s')) :
    complete service transport limit text pos s = (.error .addition, s') := by
  simp only [Summable, not_forall] at wide
  obtain ⟨edit, last, wide⟩ := wide
  rw [complete_of_items answer, replacedFrom_of_some last, Text.addOffsets_of_not_fits wide]
  rfl

theorem meaning_bounds (text : Text) (c : Complaint) :
    (c.meaning text).start ≤ (c.meaning text).stop ∧ (c.meaning text).stop ≤ Text.size text := by
  have first : placeOf text c.range.start ≤ Text.size text := Nat.min_le_right _ _
  have last : placeOf text c.range.stop ≤ Text.size text := Nat.min_le_right _ _
  exact ⟨Nat.le_max_right _ _, Nat.max_le.mpr ⟨last, first⟩⟩

theorem offsetOf_of_fits {p : Position}
    (fits : Text.Fits (Text.lineStart text p.line) p.character) :
    offsetOf text p = .ok (placeOf text p) := by
  rw [offsetOf, Text.addOffsets_of_fits fits]
  rfl

theorem offsetOf_of_not_fits {p : Position}
    (wide : ¬ Text.Fits (Text.lineStart text p.line) p.character) :
    offsetOf text p = .error .addition := by
  rw [offsetOf, Text.addOffsets_of_not_fits wide]
  rfl

theorem toDiagnostic_of_summable {c : Complaint} (sums : c.Summable text) :
    c.toDiagnostic text = .ok (c.meaning text) := by
  have first := sums c.range.start List.mem_cons_self
  have last := sums c.range.stop (List.mem_cons_of_mem _ List.mem_cons_self)
  rw [Complaint.toDiagnostic, offsetOf_of_fits first, offsetOf_of_fits last]
  rfl

theorem toDiagnostic_of_not_summable {c : Complaint} (wide : ¬ c.Summable text) :
    c.toDiagnostic text = .error .addition := by
  by_cases first : Text.Fits (Text.lineStart text c.range.start.line) c.range.start.character
  · have last : ¬ Text.Fits (Text.lineStart text c.range.stop.line) c.range.stop.character :=
      fun last => wide fun p either => by
        rcases List.mem_pair.mp either with rfl | rfl
        · exact first
        · exact last
    rw [Complaint.toDiagnostic, offsetOf_of_fits first, offsetOf_of_not_fits last]
    rfl
  · rw [Complaint.toDiagnostic, offsetOf_of_not_fits first]
    rfl

/-- Complaints become diagnostics all together or, for one column that is too large, not at all. -/
theorem mapM_toDiagnostic (text : Text) (complaints : List Complaint) :
    ((∀ c ∈ complaints, c.Summable text) →
      complaints.mapM (Complaint.toDiagnostic text) =
        .ok (complaints.map (Complaint.meaning text))) ∧
    ((∃ c ∈ complaints, ¬ c.Summable text) →
      complaints.mapM (Complaint.toDiagnostic text) = .error .addition) := by
  induction complaints with
  | nil => exact ⟨fun _ => rfl, fun wide => by simp at wide⟩
  | cons c complaints ih =>
    rw [List.mapM_cons]
    constructor
    · intro sums
      obtain ⟨first, rest⟩ := List.forall_mem_cons.mp sums
      rw [toDiagnostic_of_summable first, ih.1 rest]
      rfl
    · intro wide
      by_cases first : c.Summable text
      · have later : ∃ d ∈ complaints, ¬ d.Summable text := by simpa [first] using wide
        rw [toDiagnostic_of_summable first, ih.2 later]
        rfl
      · rw [toDiagnostic_of_not_summable first]
        rfl

theorem linted (text : Text) (complaints : List Complaint) :
    Linted text complaints
      (stableSort Diagnostic.le (complaints.map (Complaint.meaning text))) where
  all := stableSort_perm _ _
  sorted := Diagnostic.stableSort_sorted _
  bounds := by
    intro d member
    rw [(stableSort_perm _ _).mem_iff, List.mem_map] at member
    obtain ⟨c, -, rfl⟩ := member
    exact meaning_bounds text c

theorem lint_of_complaints {found : Except Fault (List Complaint)}
    (answer : service.complaints transport (wholeQuery limit text) s = (found, s')) :
    (LintSource.remote service limit).lint transport text s =
      (((found.toOption.getD []).mapM (Complaint.toDiagnostic text)).map
        (stableSort Diagnostic.le), s') := by
  rw [wholeQuery] at answer
  cases found with
  | error fault =>
    simp only [LintSource.lint, LintSource.examine, lint, answer]
    rfl
  | ok complaints =>
    simp only [LintSource.lint, LintSource.examine, lint, answer]
    cases made : complaints.mapM (Complaint.toDiagnostic text) <;>
      simp [Except.map, Except.toOption, made]

/-- Places around a language service, whose positions are words of 64 bits. A boundary is held by
the line that is found for it. Where the sums of line starts and columns are words too, a completion
ends at the boundary at or below the cursor, starts no later and on the same line, and diagnostics
are sorted, in order, in the text and where the service meant them. One sum that is no word ends the
work. -/
theorem ranges_of_answers (service : Service) (transport : Http.Transport σ) (limit : Nat)
    (text : Text) :
    (∀ pos, Text.isBoundary text pos = true →
      Text.LineHolds text pos (Text.lineAt text pos).1 (Text.lineAt text pos).2) ∧
    (∀ pos s items s',
      service.items transport (cursorQuery limit text pos) s = (.ok items, s') →
      AllWords items ∧
      (Summable text pos (lastEdit items) →
        ∃ r, complete service transport limit text pos s = (.ok (some r), s') ∧
          Completed text pos (lastEdit items) r) ∧
      (¬ Summable text pos (lastEdit items) →
        complete service transport limit text pos s = (.error .addition, s'))) ∧
    (∀ s found s', service.complaints transport (wholeQuery limit text) s = (found, s') →
      (∀ c ∈ found.toOption.getD [], c.range.IsWord) ∧
      ((∀ c ∈ found.toOption.getD [], c.Summable text) →
        ∃ ds, (LintSource.remote service limit).lint transport text s = (.ok ds, s') ∧
          Linted text (found.toOption.getD []) ds) ∧
      ((∃ c ∈ found.toOption.getD [], ¬ c.Summable text) →
        (LintSource.remote service limit).lint transport text s = (.error .addition, s'))) := by
  refine ⟨fun pos boundary => Text.lineAt_holds boundary, ?_, ?_⟩
  · intro pos s items s' answer
    have words := forall_of_receive Item.ensures_read? (congrArg Prod.fst answer)
    exact ⟨words, fun sums => completed sums answer, fun wide => complete_overflows wide answer⟩
  · intro s found s' answer
    obtain ⟨sums, wide⟩ := mapM_toDiagnostic text (found.toOption.getD [])
    rw [lint_of_complaints answer]
    refine ⟨?_, fun fit => ⟨_, ?_, linted text _⟩, fun one => ?_⟩
    · cases found with
      | error fault => exact List.forall_mem_nil _
      | ok complaints =>
        exact forall_of_receive Complaint.ensures_read? (congrArg Prod.fst answer)
    · rw [sums fit]
      rfl
    · rw [wide one]
      rfl

/-- The service that answers with one item, whose edit starts at a column of the second line, and
with one complaint about what follows that column. -/
def pointingAt (column : String) : Http.Transport Unit where
  send request s :=
    let range := "[[1," ++ column ++ "],[1,9]]"
    let body :=
      if request.url == "/completion" then "[[\"x\",null,null,[" ++ range ++ ",\"x\"]]]"
      else "[[" ++ range ++ ",null,\"no\"]]"
    (some ⟨200, "OK", body⟩, s)

/-- An edit from the start of the line with the cursor, and a complaint that goes on behind the
text. -/
theorem ranges_of_answers_secondLine :
    let text : Text := ['a', '\n', 'b']
    Text.lineStart text (Text.lineAt text 3).2 = 2 ∧
      (∃ r s, complete ⟨""⟩ (pointingAt "0") 10 text 3 () = (.ok (some r), s) ∧ 2 ≤ r.start ∧
        r.start ≤ r.stop ∧ r.stop ≤ 3) ∧
      ∃ d s, (LintSource.remote ⟨""⟩ 10).lint (pointingAt "0") text () = (.ok [d], s) ∧
        d.start = 2 ∧ d.stop = 3 := by
  intro text
  obtain ⟨lines, completes, lints⟩ := ranges_of_answers ⟨""⟩ (pointingAt "0") 10 text
  have items : Service.items ⟨""⟩ (pointingAt "0") (cursorQuery 10 text 3) () =
      (.ok [⟨"x", none, none, some ⟨⟨⟨1, 0⟩, ⟨1, 9⟩⟩, "x"⟩⟩], ()) := by
    decide +kernel
  have complaints : Service.complaints ⟨""⟩ (pointingAt "0") (wholeQuery 10 text) () =
      (.ok [⟨⟨⟨1, 0⟩, ⟨1, 9⟩⟩, none, "no"⟩], ()) := by
    decide +kernel
  refine ⟨(lines 3 (by decide)).starts, ?_, ?_⟩
  · obtain ⟨-, sums, -⟩ := completes 3 () _ _ items
    have fits : Summable text 3 (some ⟨⟨⟨1, 0⟩, ⟨1, 9⟩⟩, "x"⟩) := by
      rintro _ ⟨⟩
      decide
    obtain ⟨r, completed, placed⟩ := sums fits
    have stop : r.stop = 3 := placed.stop.unique (Text.isGreatest_floor text 3)
    have bounds := placed.bounds
    rw [stop] at bounds
    exact ⟨r, (), completed, bounds.1, stop ▸ bounds.2.1, stop.le⟩
  · obtain ⟨-, sums, -⟩ := lints () _ _ complaints
    have fits : ∀ c ∈ [(⟨⟨⟨1, 0⟩, ⟨1, 9⟩⟩, none, "no"⟩ : Complaint)], c.Summable text := by
      rw [List.forall_mem_singleton, Complaint.Summable]
      decide
    obtain ⟨ds, linted, placed⟩ := sums fits
    have only : ds = [⟨2, 3, .error, "no"⟩] := List.perm_singleton.mp placed.all
    exact ⟨_, (), only ▸ linted, rfl, rfl⟩

/-- With the largest column there is, a completion comes to an end before its time. -/
theorem complete_overflows_largest :
    let text : Text := ['a', '\n', 'b']
    Text.lineAt text 3 = (2, 1) ∧
      (complete ⟨""⟩ (pointingAt "18446744073709551615") 10 text 3 ()).1 =
        .error Text.Overflow.addition := by
  decide +kernel

end Remote

end MetricQuery
