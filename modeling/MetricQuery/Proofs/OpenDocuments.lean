import MetricQuery.Server.Session
import Mathlib.Data.List.Induction

/-!
The documents of a session, judged against the events so far. A document is open from when it is
opened until it is closed, and its text is the last one that came in between. Each text that comes
for an open document is answered by its diagnostics, and nothing else is.
-/

set_option autoImplicit false

namespace MetricQuery

namespace Documents

variable (ds : Documents) {uri other : String} (d : Document)

theorem get?_erase_self : (ds.erase uri).get? uri = none := by
  have none : (ds.erase uri).find? (·.1 == uri) = none := by
    rw [List.find?_eq_none]
    intro entry member
    simpa [erase] using (List.mem_filter.mp member).2
  rw [get?, none]
  rfl

theorem get?_erase_of_ne (different : other ≠ uri) : (ds.erase uri).get? other = ds.get? other := by
  rw [get?, get?, erase, List.find?_filter]
  congr 2
  funext entry
  by_cases same : entry.1 = other
  · simp [same, different]
  · simp [same]

theorem get?_insert_self : (ds.insert uri d).get? uri = some d := by
  simp [get?, insert]

theorem get?_insert_of_ne (different : other ≠ uri) :
    (ds.insert uri d).get? other = ds.get? other := by
  have passed : (ds.insert uri d).get? other = (ds.erase uri).get? other := by
    simp [get?, insert, Ne.symm different]
  rw [passed, get?_erase_of_ne ds different]

theorem get?_update_self : (ds.update uri d).get? uri = (ds.get? uri).map fun _ => d := by
  rw [update]
  cases found : ds.get? uri with
  | none => simpa using found
  | some old => simp [get?_insert_self]

theorem get?_update_of_ne (different : other ≠ uri) :
    (ds.update uri d).get? other = ds.get? other := by
  rw [update]
  split
  · exact get?_insert_of_ne ds d different
  · rfl

end Documents

namespace Workspace

variable {σ : Type} (ds : Documents) (e : DocumentEvent)

/-- What an event makes of the document it is about. -/
def documentAfter (old : Option Document) : DocumentEvent → Option Document
  | .opened _ text => some ⟨text⟩
  | .closed _ => none
  | e => old.map fun d => ⟨e.text?.getD d.text⟩

theorem get?_documentsAfter_self :
    (documentsAfter ds e).get? e.uri = documentAfter (ds.get? e.uri) e := by
  cases e with
  | opened uri text => exact ds.get?_insert_self ⟨text⟩
  | changed uri texts =>
    cases last : texts.getLast? <;>
      simp [documentsAfter, documentAfter, DocumentEvent.uri, DocumentEvent.text?, last,
        Documents.get?_update_self]
  | saved uri text =>
    cases text <;>
      simp [documentsAfter, documentAfter, DocumentEvent.uri, DocumentEvent.text?,
        Documents.get?_update_self]
  | closed uri => exact ds.get?_erase_self

/-- An event leaves all documents alone but its own. -/
theorem get?_documentsAfter_of_ne {uri : String} (different : uri ≠ e.uri) :
    (documentsAfter ds e).get? uri = ds.get? uri := by
  cases e with
  | opened _ text => exact ds.get?_insert_of_ne ⟨text⟩ different
  | changed _ texts =>
    simp only [documentsAfter]
    cases texts.getLast? with
    | none => rfl
    | some text => exact ds.get?_update_of_ne ⟨text⟩ different
  | saved _ text =>
    cases text with
    | none => rfl
    | some text => exact ds.get?_update_of_ne ⟨text⟩ different
  | closed _ => exact ds.get?_erase_of_ne different

/-- An event that brings a text for an open document publishes the diagnostics of this text. -/
theorem handle_publishes (a : Assistant σ) (w : Workspace σ) {text : Text}
    (brings : e.text? = some text)
    (isOpen : ((documentsAfter w.documents e).get? e.uri).isSome = true) :
    (w.handle a e).2 =
      [.diagnostics e.uri ((a.lint text w.state).1.map (.ofDiagnostic ⟨text⟩))] := by
  have stored : (documentsAfter w.documents e).get? e.uri = some ⟨text⟩ := by
    rw [get?_documentsAfter_self] at isOpen ⊢
    cases e with
    | opened uri first => simpa [documentAfter, DocumentEvent.text?] using brings
    | closed uri => cases brings
    | changed | saved =>
      obtain ⟨old, found⟩ := Option.isSome_iff_exists.mp (Option.isSome_map ▸ isOpen)
      simp [documentAfter, found, brings]
  simp [handle, brings, publish, stored]

theorem handle_silent (a : Assistant σ) (w : Workspace σ)
    (nothing : e.text? = none ∨ (documentsAfter w.documents e).get? e.uri = none) :
    (w.handle a e).2 = [] := by
  rcases nothing with none | closed
  · simp [handle, none]
  · rw [handle]
    split
    · simp [publish, closed]
    · rfl

theorem handle_documents (a : Assistant σ) (w : Workspace σ) :
    (w.handle a e).1.documents = documentsAfter w.documents e := by
  rw [handle]
  split
  · rw [publish]
    split <;> rfl
  · rfl

end Workspace

/-- A list with one more element, cut at some element: this is the last one, or it was there
before. -/
theorem of_concat_eq_append_cons {α : Type} {front before since : List α} {last x : α}
    (cut : front ++ [last] = before ++ x :: since) :
    (last = x ∧ since = []) ∨ ∃ rest, since = rest ++ [last] ∧ front = before ++ x :: rest := by
  cases since using List.reverseRecOn with
  | nil =>
    obtain ⟨-, same⟩ := List.append_inj' cut rfl
    exact .inl ⟨List.singleton_inj.mp same, rfl⟩
  | append_singleton rest y =>
    have moved : front ++ [last] = (before ++ x :: rest) ++ [y] := by simpa using cut
    obtain ⟨earlier, same⟩ := List.append_inj' moved rfl
    exact .inr ⟨rest, by rw [same], earlier⟩

namespace DocumentEvent

variable {uri : String} {past : List DocumentEvent} {e : DocumentEvent}

/-- A document is open after events: one of them opened it, and none has closed it since. -/
def LeftOpen (uri : String) (past : List DocumentEvent) : Prop :=
  ∃ before text since, past = before ++ .opened uri text :: since ∧ .closed uri ∉ since

/-- The texts that events bring for a document, in this order. -/
def texts (uri : String) (events : List DocumentEvent) : List Text :=
  (events.filter (·.uri = uri)).filterMap text?

/-- The last text that came for a document since it was last opened; it has not been closed. -/
def LatestText (uri : String) (past : List DocumentEvent) (text : Text) : Prop :=
  ∃ before first since, past = before ++ .opened uri first :: since ∧ .closed uri ∉ since ∧
    (∀ again, .opened uri again ∉ since) ∧
    (texts uri (.opened uri first :: since)).getLast? = some text

/-- An event about another document neither opens nor closes this one. -/
theorem ne_of_uri_ne (other : e.uri ≠ uri) : (∀ text, e ≠ .opened uri text) ∧ e ≠ .closed uri := by
  constructor
  · rintro text rfl
    exact other rfl
  · rintro rfl
    exact other rfl

theorem leftOpen_concat_iff :
    LeftOpen uri (past ++ [e]) ↔
      (∃ text, e = .opened uri text) ∨ e ≠ .closed uri ∧ LeftOpen uri past := by
  constructor
  · rintro ⟨before, text, since, cut, unclosed⟩
    rcases of_concat_eq_append_cons cut with ⟨isLast, -⟩ | ⟨rest, rfl, earlier⟩
    · exact .inl ⟨text, isLast⟩
    · rw [List.mem_append, List.mem_singleton, not_or] at unclosed
      exact .inr ⟨Ne.symm unclosed.2, before, text, rest, earlier, unclosed.1⟩
  · rintro (⟨text, rfl⟩ | ⟨unclosed, before, text, rest, rfl, earlier⟩)
    · exact ⟨past, text, [], rfl, List.not_mem_nil⟩
    · refine ⟨before, text, rest ++ [e], by simp, ?_⟩
      rw [List.mem_append, List.mem_singleton, not_or]
      exact ⟨earlier, Ne.symm unclosed⟩

theorem texts_opened (uri : String) (first : Text) (since : List DocumentEvent) :
    texts uri (.opened uri first :: since) = first :: texts uri since := by
  have own : (DocumentEvent.opened uri first).uri = uri := rfl
  simp [texts, own, text?]

theorem texts_concat (uri : String) (events : List DocumentEvent) (e : DocumentEvent) :
    texts uri (events ++ [e]) = texts uri events ++ if e.uri = uri then e.text?.toList else [] := by
  by_cases own : e.uri = uri
  · cases brings : e.text? <;> simp [texts, own, brings]
  · simp [texts, own]

/-- The last text, where one more event comes after others that brought one. -/
theorem getLast?_texts_concat {events : List DocumentEvent} {old : Text} (e : DocumentEvent)
    (found : (texts uri events).getLast? = some old) :
    (texts uri (events ++ [e])).getLast? =
      some (if e.uri = uri then e.text?.getD old else old) := by
  rw [texts_concat, List.getLast?_append, found]
  by_cases own : e.uri = uri
  · cases e.text? <;> simp [own]
  · simp [own]

theorem latestText_concat_iff {text : Text} :
    LatestText uri (past ++ [e]) text ↔ e = .opened uri text ∨
      (∀ again, e ≠ .opened uri again) ∧ e ≠ .closed uri ∧
        ∃ old, LatestText uri past old ∧ text = if e.uri = uri then e.text?.getD old else old := by
  constructor
  · -- The event is the opening itself, or comes after it and is the last one since.
    rintro ⟨before, first, since, cut, unclosed, unopened, last⟩
    rcases of_concat_eq_append_cons cut with ⟨rfl, rfl⟩ | ⟨rest, rfl, rfl⟩
    · rw [texts_opened] at last
      exact .inl (by simpa [texts] using last)
    · simp only [List.mem_append, List.mem_singleton, not_or] at unclosed unopened
      obtain ⟨old, found⟩ : ∃ old, (texts uri (.opened uri first :: rest)).getLast? = some old := by
        rw [texts_opened, List.getLast?_cons]
        exact ⟨_, rfl⟩
      rw [← List.cons_append, getLast?_texts_concat e found] at last
      exact .inr ⟨fun again => Ne.symm (unopened again).2, Ne.symm unclosed.2, old,
        ⟨before, first, rest, rfl, unclosed.1, fun again => (unopened again).1, found⟩,
        (Option.some.inj last).symm⟩
  · rintro (rfl | ⟨unopened, unclosed, old, ⟨before, first, rest, rfl, kept, once, found⟩, rfl⟩)
    · refine ⟨past, text, [], rfl, List.not_mem_nil, fun _ => List.not_mem_nil, ?_⟩
      rw [texts_opened]
      rfl
    · refine ⟨before, first, rest ++ [e], by simp, ?_, ?_, ?_⟩
      · simp [kept, Ne.symm unclosed]
      · simp [once, fun again => Ne.symm (unopened again)]
      · rw [← List.cons_append, getLast?_texts_concat e found]

end DocumentEvent

namespace Documents

open DocumentEvent

/-- Documents are what events say: those are there that are open, each with its latest text. -/
structure Reflect (past : List DocumentEvent) (ds : Documents) : Prop where
  isOpen : ∀ uri, (ds.get? uri).isSome = true ↔ LeftOpen uri past
  text : ∀ uri text, ds.get? uri = some ⟨text⟩ ↔ LatestText uri past text

theorem reflect_nil : Reflect [] [] := by
  constructor
  · intro uri
    simp [get?, LeftOpen]
  · intro uri text
    simp [get?, LatestText]

/-- One more event is taken into account. -/
theorem Reflect.concat {past : List DocumentEvent} {ds : Documents} (reflect : Reflect past ds)
    (e : DocumentEvent) : Reflect (past ++ [e]) (Workspace.documentsAfter ds e) := by
  constructor
  · intro uri
    have before := reflect.isOpen uri
    rw [leftOpen_concat_iff]
    by_cases own : e.uri = uri
    · subst own
      rw [Workspace.get?_documentsAfter_self]
      cases e with
      | opened uri text => simp [Workspace.documentAfter, DocumentEvent.uri]
      | closed uri => simp [Workspace.documentAfter, DocumentEvent.uri]
      | changed | saved => simpa [Workspace.documentAfter] using before
    · obtain ⟨unopened, unclosed⟩ := ne_of_uri_ne own
      rw [Workspace.get?_documentsAfter_of_ne ds e (Ne.symm own), before]
      simp [unopened, unclosed]
  · intro uri latest
    have before := reflect.text uri
    rw [latestText_concat_iff]
    by_cases own : e.uri = uri
    · subst own
      rw [Workspace.get?_documentsAfter_self]
      cases e with
      | opened uri text => simp [Workspace.documentAfter, DocumentEvent.uri]
      | closed uri => simp [Workspace.documentAfter, DocumentEvent.uri]
      | changed | saved =>
        simp only [Workspace.documentAfter, Option.map_eq_some_iff, ← before, if_true]
        constructor
        · rintro ⟨⟨old⟩, found, same⟩
          exact .inr ⟨by simp, by simp, old, found, (congrArg Document.text same).symm⟩
        · rintro (opened | ⟨-, -, old, found, rfl⟩)
          · cases opened
          · exact ⟨⟨old⟩, found, rfl⟩
    · obtain ⟨unopened, unclosed⟩ := ne_of_uri_ne own
      rw [Workspace.get?_documentsAfter_of_ne ds e (Ne.symm own), before]
      simp [unopened, unclosed, own]

theorem reflect_foldl (past : List DocumentEvent) :
    Reflect past (past.foldl Workspace.documentsAfter []) := by
  induction past using List.reverseRecOn with
  | nil => exact reflect_nil
  | append_singleton past e reflect =>
    rw [List.foldl_append]
    exact reflect.concat e

end Documents

namespace Session

open DocumentEvent

variable {σ : Type} (a : Assistant σ)

/-- A session after messages. -/
def after (s : Session σ) (ms : List Message) : Session σ :=
  ms.foldl (fun s m => (step a s m).session) s

theorem run_concat (s : Session σ) (ms : List Message) (m : Message) :
    run a s (ms ++ [m]) = run a s ms ++ [step a (after a s ms) m] := by
  induction ms generalizing s with
  | nil => rfl
  | cons first ms ih =>
    simp only [List.cons_append, run, ih]
    rfl

/-- The event that a message brings, if the session is ready for it. -/
def event? : Phase → Message → Option DocumentEvent
  | .ready, .document e => some e
  | _, _ => none

/-- The events among messages that a session takes note of. -/
def heard : Session σ → List Message → List DocumentEvent
  | _, [] => []
  | s, m :: ms => (event? s.phase m).toList ++ heard (step a s m).session ms

theorem heard_documents {s : Session σ} (ready : s.phase = .ready) (events : List DocumentEvent) :
    heard a s (events.map .document) = events := by
  induction events generalizing s with
  | nil => rfl
  | cons e events ih =>
    have still : (step a s (.document e)).session.phase = .ready := by
      simp only [step, ready, receive]
    rw [List.map_cons, heard, ih still, ready]
    rfl

/-- After the handshake every event is taken note of, until the session is shut down. -/
theorem heard_handshake (state : σ) (events : List DocumentEvent) :
    heard a (start state) (.request .handshake :: events.map .document) = events :=
  heard_documents a rfl events

theorem complete_documents (w : Workspace σ) (uri : String) (p : Position) :
    (complete a w uri p).2.documents = w.documents := by
  rw [complete]
  split <;> rfl

/-- Only the events that a session takes note of change its documents. -/
theorem step_documents (s : Session σ) (m : Message) :
    (step a s m).session.workspace.documents =
      (event? s.phase m).toList.foldl Workspace.documentsAfter s.workspace.documents := by
  cases phase : s.phase with
  | ready =>
    simp only [step, phase]
    cases m with
    | document e => exact Workspace.handle_documents e a s.workspace
    | request r =>
      cases r with
      | completion uri p => exact complete_documents a s.workspace uri p
      | handshake | hover | shutdown => rfl
    | initialized | exit => rfl
  | fresh | shutDown | exited =>
    simp only [step, phase]
    cases m with
    | request r => cases r <;> rfl
    | document | initialized | exit => rfl

theorem after_documents (s : Session σ) (ms : List Message) :
    (after a s ms).workspace.documents =
      (heard a s ms).foldl Workspace.documentsAfter s.workspace.documents := by
  induction ms generalizing s with
  | nil => rfl
  | cons m ms ih =>
    rw [heard, List.foldl_append, ← step_documents]
    exact ih (step a s m).session

/-- Whatever an editor sends, the documents of its session are those that it has opened and not
closed since, each with the latest text that came for it. A text that comes for an open document is
answered by the diagnostics found in this text, at positions in this text; no other event is
answered, and none touches a document but its own. -/
theorem run_documents (state : σ) (ms : List Message) (e : DocumentEvent) :
    let s := after a (start state) ms
    let past := heard a (start state) ms
    let reaction := step a s (.document e)
    run a (start state) (ms ++ [.document e]) = run a (start state) ms ++ [reaction] ∧
    (∀ uri, (s.workspace.documents.get? uri).isSome = true ↔ LeftOpen uri past) ∧
    (∀ uri text, s.workspace.documents.get? uri = some ⟨text⟩ ↔ LatestText uri past text) ∧
    (s.phase = .ready →
      (∀ text, e.text? = some text → LeftOpen e.uri (past ++ [e]) →
        reaction.notices = [.diagnostics e.uri ((a.lint text s.workspace.state).1.map fun d =>
          ⟨⟨(Document.mk text).position d.start, (Document.mk text).position d.stop⟩,
            d.severity, d.message⟩)]) ∧
      (e.text? = none ∨ ¬ LeftOpen e.uri (past ++ [e]) → reaction.notices = [])) ∧
    (s.phase ≠ .ready → reaction.notices = []) ∧
    ∀ uri, uri ≠ e.uri →
      reaction.session.workspace.documents.get? uri = s.workspace.documents.get? uri := by
  intro s past reaction
  have reflect : Documents.Reflect past s.workspace.documents := by
    have told := after_documents a (start state) ms
    rw [told]
    exact Documents.reflect_foldl past
  have next := reflect.concat e
  refine ⟨run_concat a _ ms _, reflect.isOpen, reflect.text, ?_, ?_, ?_⟩
  · intro ready
    have handled : reaction.notices = (s.workspace.handle a e).2 := by
      simp only [reaction, step, ready]
      rfl
    constructor
    · intro text brings isOpen
      -- Publishing looks the document up again, and finds the text that has just come.
      have stored := (next.isOpen e.uri).mpr isOpen
      rw [handled, Workspace.handle_publishes e a s.workspace brings stored]
      rfl
    · intro nothing
      rw [handled]
      refine Workspace.handle_silent e a s.workspace (nothing.imp_right ?_)
      intro closed
      rw [← Option.not_isSome_iff_eq_none]
      exact fun stored => closed ((next.isOpen e.uri).mp stored)
  · intro notReady
    cases phase : s.phase with
    | ready => exact absurd phase notReady
    | fresh | shutDown | exited => simp only [reaction, step, phase]
  · intro uri other
    simp only [reaction, step_documents]
    cases s.phase with
    | ready => exact Workspace.get?_documentsAfter_of_ne s.workspace.documents e other
    | fresh | shutDown | exited => rfl

theorem run_documents_reopened :
    let a : Assistant Unit := .ofClient none 0
    let events : List DocumentEvent := [.opened "a" ['1'], .closed "a", .opened "a" ['2']]
    let s := after a (start ()) (.request .handshake :: events.map .document)
    s.phase = .ready ∧ LeftOpen "a" (events ++ [.changed "a" [['3'], ['4']]]) ∧
      (step a s (.document (.changed "a" [['3'], ['4']]))).notices =
        [.diagnostics "a" ((lint ['4']).map fun d =>
          ⟨⟨(Document.mk ['4']).position d.start, (Document.mk ['4']).position d.stop⟩,
            d.severity, d.message⟩)] := by
  intro a events s
  have isOpen : LeftOpen "a" (events ++ [.changed "a" [['3'], ['4']]]) :=
    ⟨[.opened "a" ['1'], .closed "a"], ['2'], [.changed "a" [['3'], ['4']]], rfl, by simp⟩
  obtain ⟨-, -, -, told, -⟩ := run_documents a () (.request .handshake :: events.map .document)
    (.changed "a" [['3'], ['4']])
  rw [heard_handshake] at told
  exact ⟨rfl, isOpen, (told rfl).1 ['4'] rfl isOpen⟩

end Session

end MetricQuery
