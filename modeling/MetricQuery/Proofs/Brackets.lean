import MetricQuery.Proofs.Reading

/-!
Brackets among tokens. They are balanced where every bracket that closes closes the last one that is
open, and none is left open. A weaker reading passes over square brackets that were never closed; it
comes to the same where as many brackets close as open.
-/

set_option autoImplicit false

namespace MetricQuery

/-- The three pairs of brackets. -/
inductive Bracket where
  | paren
  | brace
  | square
  deriving DecidableEq, Repr

namespace Bracket

/-- The token that opens a pair. -/
def opening : Bracket → Token.Kind
  | paren => .leftParen
  | brace => .leftBrace
  | square => .leftBracket

/-- The token that closes a pair. -/
def closing : Bracket → Token.Kind
  | paren => .rightParen
  | brace => .rightBrace
  | square => .rightBracket

end Bracket

namespace Token.Kind

/-- The pair that a token opens. -/
def opens? : Kind → Option Bracket
  | .leftParen => some .paren
  | .leftBrace => some .brace
  | .leftBracket => some .square
  | _ => none

/-- The pair that a token closes. -/
def closes? : Kind → Option Bracket
  | .rightParen => some .paren
  | .rightBrace => some .brace
  | .rightBracket => some .square
  | _ => none

/-- Whether a token is no bracket. -/
def isPlain (kind : Kind) : Bool := kind.opens?.isNone && kind.closes?.isNone

end Token.Kind

namespace Bracket

@[simp] theorem opens?_opening (b : Bracket) : b.opening.opens? = some b := by cases b <;> rfl

@[simp] theorem closes?_opening (b : Bracket) : b.opening.closes? = none := by cases b <;> rfl

@[simp] theorem opens?_closing (b : Bracket) : b.closing.opens? = none := by cases b <;> rfl

@[simp] theorem closes?_closing (b : Bracket) : b.closing.closes? = some b := by cases b <;> rfl

theorem opening_ne_endOfInput (b : Bracket) : b.opening ≠ .endOfInput := by
  cases b <;> simp [opening]

theorem closing_ne_endOfInput (b : Bracket) : b.closing ≠ .endOfInput := by
  cases b <;> simp [closing]

/-- Closes the last bracket that is open, which has to be of the same pair. -/
def closeLast (b : Bracket) : List Bracket → Option (List Bracket)
  | [] => none
  | last :: before => if last = b then some before else none

/-- Closes the last bracket of its pair that is open, past nothing but square brackets. -/
def closeNearest (b : Bracket) : List Bracket → Option (List Bracket)
  | [] => none
  | last :: before =>
    if last = b then some before else if last = .square then b.closeNearest before else none

/-- The brackets that are open after one more token, the last first. -/
def step (close : Bracket → List Bracket → Option (List Bracket)) (opened : List Bracket)
    (kind : Token.Kind) : Option (List Bracket) :=
  match kind.opens?, kind.closes? with
  | some b, _ => some (b :: opened)
  | none, some b => close b opened
  | none, none => some opened

/-- The brackets that are open after some tokens; none where a bracket closes nothing. -/
def run (close : Bracket → List Bracket → Option (List Bracket)) (opened : List Bracket)
    (kinds : List Token.Kind) : Option (List Bracket) :=
  kinds.foldlM (step close) opened

/-- Every bracket closes the last one that is open, and none stays open. -/
def Balanced (kinds : List Token.Kind) : Prop := run closeLast [] kinds = some []

instance (kinds : List Token.Kind) : Decidable (Balanced kinds) :=
  inferInstanceAs (Decidable (_ = _))

/-- How many brackets open. -/
def openings (kinds : List Token.Kind) : Nat := kinds.countP (·.opens?.isSome)

/-- How many brackets close. -/
def closings (kinds : List Token.Kind) : Nat := kinds.countP (·.closes?.isSome)

section Words

variable {close : Bracket → List Bracket → Option (List Bracket)} {opened final : List Bracket}
  {kind : Token.Kind} {kinds : List Token.Kind}

@[simp] theorem run_cons :
    run close opened (kind :: kinds) = (step close opened kind).bind (run close · kinds) := rfl

theorem run_append (more : List Token.Kind) :
    run close opened (kinds ++ more) = (run close opened kinds).bind (run close · more) :=
  List.foldlM_append

@[simp] theorem step_opening (b : Bracket) : step close opened b.opening = some (b :: opened) := by
  rw [step, opens?_opening]

@[simp] theorem step_closing (b : Bracket) : step close opened b.closing = close b opened := by
  rw [step, opens?_closing, closes?_closing]

theorem isPlain_iff : kind.isPlain = true ↔ kind.opens? = none ∧ kind.closes? = none := by
  rw [Token.Kind.isPlain, Bool.and_eq_true, Option.isNone_iff_eq_none, Option.isNone_iff_eq_none]

theorem step_plain (plain : kind.isPlain = true) : step close opened kind = some opened := by
  rw [isPlain_iff] at plain
  rw [step, plain.1, plain.2]

/-- A token opens, closes or is no bracket. -/
theorem kind_cases (kind : Token.Kind) :
    (∃ b : Bracket, kind = b.opening) ∨ (∃ b : Bracket, kind = b.closing) ∨
      kind.isPlain = true := by
  cases kind with
  | leftParen => exact .inl ⟨.paren, rfl⟩
  | leftBrace => exact .inl ⟨.brace, rfl⟩
  | leftBracket => exact .inl ⟨.square, rfl⟩
  | rightParen => exact .inr (.inl ⟨.paren, rfl⟩)
  | rightBrace => exact .inr (.inl ⟨.brace, rfl⟩)
  | rightBracket => exact .inr (.inl ⟨.square, rfl⟩)
  | _ => exact .inr (.inr rfl)

theorem closeLast_length {b : Bracket} (closed : closeLast b opened = some final) :
    final.length + 1 = opened.length := by
  cases opened with
  | nil => cases closed
  | cons last before =>
    rw [closeLast] at closed
    split at closed
    · cases closed
      rfl
    · cases closed

/-- Passing over brackets closes more of them than one. -/
theorem closeNearest_length {b : Bracket} (closed : closeNearest b opened = some final) :
    final.length + 1 ≤ opened.length ∧
      (final.length + 1 = opened.length → closeLast b opened = some final) := by
  induction opened with
  | nil => cases closed
  | cons last before ih =>
    rw [closeNearest] at closed
    split at closed
    · rename_i same
      cases closed
      exact ⟨Nat.le_refl _, fun _ => by rw [closeLast, if_pos same]⟩
    · split at closed
      · have fewer := (ih closed).1
        rw [List.length_cons]
        exact ⟨by omega, fun exact_ => by omega⟩
      · cases closed

theorem openings_cons :
    openings (kind :: kinds) = openings kinds + if kind.opens?.isSome then 1 else 0 :=
  List.countP_cons

theorem closings_cons :
    closings (kind :: kinds) = closings kinds + if kind.closes?.isSome then 1 else 0 :=
  List.countP_cons

/-- A step opens and closes as many brackets as the token stands for. -/
theorem step_closeLast_length {next : List Bracket}
    (stepped : step closeLast opened kind = some next) :
    next.length + (if kind.closes?.isSome then 1 else 0) =
      opened.length + (if kind.opens?.isSome then 1 else 0) := by
  rcases kind_cases kind with ⟨b, rfl⟩ | ⟨b, rfl⟩ | plain
  · rw [step_opening] at stepped
    cases stepped
    simp
  · rw [step_closing] at stepped
    simpa using closeLast_length stepped
  · rw [step_plain plain] at stepped
    cases stepped
    rw [isPlain_iff] at plain
    simp [plain]

/-- A step that passes over brackets closes more of them than the token stands for. -/
theorem step_closeNearest_length {next : List Bracket}
    (stepped : step closeNearest opened kind = some next) :
    next.length + (if kind.closes?.isSome then 1 else 0) ≤
        opened.length + (if kind.opens?.isSome then 1 else 0) ∧
      (next.length + (if kind.closes?.isSome then 1 else 0) =
          opened.length + (if kind.opens?.isSome then 1 else 0) →
        step closeLast opened kind = some next) := by
  rcases kind_cases kind with ⟨b, rfl⟩ | ⟨b, rfl⟩ | plain
  · rw [step_opening] at stepped ⊢
    cases stepped
    simp
  · rw [step_closing] at stepped ⊢
    simpa using closeNearest_length stepped
  · rw [step_plain plain] at stepped ⊢
    cases stepped
    rw [isPlain_iff] at plain
    simp [plain]

theorem run_closeLast_length (ran : run closeLast opened kinds = some final) :
    final.length + closings kinds = opened.length + openings kinds := by
  induction kinds generalizing opened with
  | nil =>
    cases ran
    rfl
  | cons kind kinds ih =>
    rw [run_cons, Option.bind_eq_some_iff] at ran
    obtain ⟨next, stepped, rest⟩ := ran
    have here := step_closeLast_length stepped
    have later := ih rest
    rw [openings_cons, closings_cons]
    omega

theorem run_closeNearest_length (ran : run closeNearest opened kinds = some final) :
    final.length + closings kinds ≤ opened.length + openings kinds ∧
      (final.length + closings kinds = opened.length + openings kinds →
        run closeLast opened kinds = some final) := by
  induction kinds generalizing opened with
  | nil => exact ⟨by cases ran; exact Nat.le_refl _, fun _ => ran⟩
  | cons kind kinds ih =>
    rw [run_cons, Option.bind_eq_some_iff] at ran
    obtain ⟨next, stepped, rest⟩ := ran
    obtain ⟨here, stepEqual⟩ := step_closeNearest_length stepped
    obtain ⟨later, restEqual⟩ := ih rest
    rw [openings_cons, closings_cons]
    refine ⟨by omega, fun equal => ?_⟩
    rw [run_cons, stepEqual (by omega)]
    exact restEqual (by omega)

/-- Where no bracket closes nothing, brackets are balanced if as many close as open. -/
theorem balanced_iff (ran : run closeNearest [] kinds = some final) :
    Balanced kinds ↔ openings kinds = closings kinds := by
  obtain ⟨atMost, equal⟩ := run_closeNearest_length ran
  rw [List.length_nil, Nat.zero_add] at atMost equal
  constructor
  · intro balanced
    have exactly := run_closeLast_length balanced
    simpa using exactly.symm
  · intro same
    have none : final = [] := List.length_eq_zero_iff.mp (by omega)
    subst none
    exact equal (by simpa using same.symm)

/-- Closing a bracket of a pair leaves square brackets open behind it only if it is a square one. -/
theorem closeNearest_replicate (b : Bracket) (count : Nat) (opened : List Bracket) :
    closeNearest b (List.replicate count .square ++ b :: opened) =
      some (List.replicate (if b = .square then count else 0) .square ++ opened) := by
  induction count with
  | zero => simp [closeNearest]
  | succ count ih =>
    rw [List.replicate_succ, List.cons_append, closeNearest]
    by_cases isSquare : b = .square
    · subst isSquare
      simp [List.replicate_succ']
    · rw [if_neg (Ne.symm isSquare), if_pos rfl, ih]
      simp [isSquare]

end Words

end Bracket

theorem Stream.inner_advance {s : Stream} (inner : ∀ t ∈ s.rest, t.kind ≠ .endOfInput) :
    ∀ t ∈ s.advance.rest, t.kind ≠ .endOfInput := by
  rw [Stream.rest_advance]
  exact fun t member => inner t (List.mem_of_mem_tail member)

namespace Parser

/-- The tokens between two streams nest: a bracket is closed by one of its pair, but a square one
need not be closed at all, nor any that is open at the end of the input. -/
inductive Nests : Stream → Stream → Prop
  | done {s : Stream} : Nests s s
  | trans {s middle after : Stream} (first : Nests s middle) (next : Nests middle after) :
      Nests s after
  | plain {s : Stream} (plain : s.kind.isPlain = true) : Nests s s.advance
  | enclosed {s middle : Stream} (b : Bracket) (opens : s.kind = b.opening)
      (inner : Nests s.advance middle) (closes : middle.kind = b.closing) : Nests s middle.advance
  | unclosed {s middle : Stream} (b : Bracket) (opens : s.kind = b.opening)
      (inner : Nests s.advance middle) (allowed : b = .square ∨ middle.kind = .endOfInput) :
      Nests s middle

/-- The tokens between two streams leave some brackets open, in front of those that were open
before. Where the input goes on, these are square brackets. -/
structure Leaves (s after : Stream) (ts : List Token) (pending : List Bracket) : Prop where
  rest : s.rest = ts ++ after.rest
  squares : after.rest ≠ [] → ∃ count, pending = List.replicate count .square
  run : ∀ opened,
    Bracket.run Bracket.closeNearest opened (ts.map Token.kind) = some (pending ++ opened)

namespace Leaves

variable {s middle after : Stream} {ts us : List Token} {pending more : List Bracket}

theorem done (s : Stream) : Leaves s s [] [] := ⟨rfl, fun _ => ⟨0, rfl⟩, fun _ => rfl⟩

theorem inner (leaves : Leaves s after ts pending)
    (inner : ∀ t ∈ s.rest, t.kind ≠ .endOfInput) : ∀ t ∈ after.rest, t.kind ≠ .endOfInput :=
  fun t member => inner t (by rw [leaves.rest]; exact List.mem_append_right ts member)

theorem trans (first : Leaves s middle ts pending) (next : Leaves middle after us more) :
    Leaves s after (ts ++ us) (more ++ pending) := by
  refine ⟨by rw [first.rest, next.rest, List.append_assoc], fun left => ?_, fun opened => ?_⟩
  · obtain ⟨count, rfl⟩ := first.squares (by simp [next.rest, left])
    obtain ⟨count', rfl⟩ := next.squares left
    exact ⟨count' + count, List.replicate_append_replicate⟩
  · rw [List.map_append, Bracket.run_append, first.run, Option.bind_some, next.run,
      List.append_assoc]

theorem plain {t : Token} {rest : List Token} (next : s.rest = t :: rest)
    (plain : s.kind.isPlain = true) : Leaves s s.advance [t] [] := by
  rw [Stream.kind_of_rest next] at plain
  refine ⟨by rw [Stream.advance_cons next, next]; rfl, fun _ => ⟨0, rfl⟩, fun opened => ?_⟩
  rw [List.map_singleton, Bracket.run_cons, Bracket.step_plain plain]
  rfl

/-- A bracket that opens, with what follows it. -/
theorem opened {b : Bracket} {t : Token} {rest : List Token} (next : s.rest = t :: rest)
    (opens : s.kind = b.opening) (inner : Leaves s.advance middle ts pending)
    (goesOn : middle.rest ≠ [] → b = .square) : Leaves s middle (t :: ts) (pending ++ [b]) := by
  have within := inner.rest
  rw [Stream.advance_cons next] at within
  rw [Stream.kind_of_rest next] at opens
  refine ⟨?_, fun left => ?_, fun opened => ?_⟩
  · rw [next]
    exact congrArg (t :: ·) within
  · obtain ⟨count, rfl⟩ := inner.squares left
    rw [goesOn left]
    exact ⟨count + 1, List.replicate_succ'.symm⟩
  · rw [List.map_cons, opens, Bracket.run_cons, Bracket.step_opening, Option.bind_some, inner.run,
      List.append_assoc]
    rfl

/-- A bracket that opens, with what follows it and the bracket that closes it. -/
theorem closed {b : Bracket} {t u : Token} {rest left : List Token} (next : s.rest = t :: rest)
    (opens : s.kind = b.opening) (inner : Leaves s.advance middle ts pending)
    (last : middle.rest = u :: left) (closes : middle.kind = b.closing) :
    ∃ count, Leaves s middle.advance (t :: ts ++ [u]) (List.replicate count .square) := by
  have within := inner.rest
  rw [Stream.advance_cons next, last] at within
  rw [Stream.kind_of_rest next] at opens
  rw [Stream.kind_of_rest last] at closes
  obtain ⟨count, rfl⟩ := inner.squares (by simp [last])
  refine ⟨if b = .square then count else 0, ?_, fun _ => ⟨_, rfl⟩, fun opened => ?_⟩
  · change rest = _ at within
    rw [next, within, Stream.advance_cons last]
    simp
  · rw [List.map_append, List.map_cons, opens, List.map_singleton, closes, Bracket.run_append,
      Bracket.run_cons, Bracket.step_opening, Option.bind_some, inner.run, Option.bind_some,
      Bracket.run_cons, Bracket.step_closing, Bracket.closeNearest_replicate]
    rfl

end Leaves

/-- Tokens that nest leave brackets open, and none but square ones before the end of the input. -/
theorem Nests.leaves {s after : Stream} (nests : Nests s after)
    (inner : ∀ t ∈ s.rest, t.kind ≠ .endOfInput) : ∃ ts pending, Leaves s after ts pending := by
  induction nests with
  | done => exact ⟨[], [], .done _⟩
  | trans _ _ front back =>
    obtain ⟨ts, pending, first⟩ := front inner
    obtain ⟨us, more, next⟩ := back (first.inner inner)
    exact ⟨_, _, first.trans next⟩
  | @plain s plain =>
    cases next : s.rest with
    | nil =>
      have same : s.advance = s := by simp only [Stream.advance, next]
      rw [same]
      exact ⟨[], [], .done s⟩
    | cons t rest => exact ⟨[t], [], .plain next plain⟩
  | @enclosed s middle b opens _ closes ih =>
    obtain ⟨t, rest, next⟩ := Stream.rest_of_kind (opens ▸ b.opening_ne_endOfInput)
    obtain ⟨u, left, last⟩ := Stream.rest_of_kind (closes ▸ b.closing_ne_endOfInput)
    obtain ⟨ts, pending, within⟩ := ih (Stream.inner_advance inner)
    obtain ⟨count, leaves⟩ := within.closed next opens last closes
    exact ⟨_, _, leaves⟩
  | @unclosed s middle b opens _ allowed ih =>
    obtain ⟨t, rest, next⟩ := Stream.rest_of_kind (opens ▸ b.opening_ne_endOfInput)
    obtain ⟨ts, pending, within⟩ := ih (Stream.inner_advance inner)
    refine ⟨_, _, within.opened next opens fun goesOn => allowed.resolve_right ?_⟩
    obtain ⟨u, left, last⟩ := List.exists_cons_of_ne_nil goesOn
    rw [Stream.kind_of_rest last]
    exact within.inner (Stream.inner_advance inner) u (by simp [last])

end Parser

end MetricQuery
