import MetricQuery.Proofs.ReadingExpr
import MetricQuery.Proofs.Rounds

/-!
The loops of the parser, round by round. A round that goes on has read a token or more, whatever it
found, so no loop runs on; and the bound that is put on each never cuts it short, so each loop ends
with what the parser makes of it.
-/

set_option autoImplicit false

namespace MetricQuery.Parser

variable {State Result : Type}

/-- Rounds that go on leave fewer tokens to read, and the loop ends with a result wherever it
starts. -/
structure Progresses (round : State → State ⊕ Result) (stream : State → Stream)
    (result : State → Result) : Prop where
  consumes : ∀ x x', round x = .inl x' → (stream x').rest.length < (stream x).rest.length
  ends : ∀ x, Ends round x (result x)

/-- A loop that is written as a recursion with as many steps as there are tokens. -/
theorem Progresses.of_steps {round : State → State ⊕ Result} {stream : State → Stream}
    (run : Nat → State → Result)
    (consumes : ∀ x x', round x = .inl x' → (stream x').rest.length < (stream x).rest.length)
    (finished : ∀ x, (stream x).rest = [] → round x = .inr (run 0 x))
    (unrolls : ∀ steps x, run (steps + 1) x = Sum.elim (run steps) id (round x)) :
    Progresses round stream fun x => run (stream x).rest.length x where
  consumes := consumes
  ends _ := ends_of_steps (fun x => (stream x).rest.length) run consumes
    (fun x none => finished x (List.length_eq_zero_iff.mp none)) unrolls (Nat.le_refl _)

theorem rest_skip_length_le (s : Stream) (kind : Token.Kind) :
    (s.skip kind).rest.length ≤ s.rest.length := by
  unfold Stream.skip
  split
  · rw [Stream.rest_advance, List.length_tail]
    omega
  · exact Nat.le_refl _

/-- The parts that were read before, and then those that are still read. -/
def behind (parts : List Part) (more : List Part × Stream) : List Part × Stream :=
  (parts ++ more.1, more.2)

/-- A round over the items of a list between brackets, each with the comma after it. -/
def listRound (close : Token.Kind) (item : Stream → Node × Stream) :
    List Part × Stream → (List Part × Stream) ⊕ (List Part × Stream)
  | (parts, s) =>
    if s.kind = close then .inr (parts, s.advance)
    else
      match s.kind with
      | .endOfInput => .inr (parts, s)
      | .ident _ =>
        let (node, s) := item s
        .inl (parts ++ [.item node], s.skip .comma)
      | _ =>
        let (error, s) := s.leaf .error
        .inl (parts ++ [.stray error], s)

theorem listRound_progresses {close : Token.Kind} {item : Stream → Node × Stream}
    (consumes : ∀ s, s.kind ≠ .endOfInput → (item s).2.rest.length < s.rest.length)
    (run : Nat → Stream → List Part × Stream) (ends : close ≠ .endOfInput)
    (zero : ∀ s, run 0 s = ([], s))
    (unrolls : ∀ steps parts s, behind parts (run (steps + 1) s) =
      Sum.elim (fun x => behind x.1 (run steps x.2)) id (listRound close item (parts, s))) :
    Progresses (listRound close item) Prod.snd fun x : List Part × Stream =>
      behind x.1 (run x.2.rest.length x.2) := by
  refine .of_steps (fun steps (x : List Part × Stream) => behind x.1 (run steps x.2)) ?_ ?_ ?_
  · rintro ⟨parts, s⟩ x' goes
    simp only [listRound] at goes
    split at goes
    · cases goes
    · split at goes
      · cases goes
      · rename_i name found
        cases goes
        exact Nat.lt_of_le_of_lt (rest_skip_length_le _ _) (consumes s (by rw [found]; simp))
      · rename_i more _
        cases goes
        exact Stream.rest_advance_lt more
  · rintro ⟨parts, s⟩ finished
    simp [listRound, Stream.kind_of_nil finished, ends.symm, behind, zero]
  · rintro steps ⟨parts, s⟩
    exact unrolls steps parts s

/-- A label of a grouping. -/
def groupingLabel (s : Stream) : Node × Stream :=
  let (name, s) := s.leaf .labelName
  (.wrap .groupingLabel name, s)

theorem groupingRound_progresses :
    Progresses (listRound .rightParen groupingLabel) Prod.snd fun x : List Part × Stream =>
      behind x.1 (groupingParts x.2.rest.length x.2) := by
  refine listRound_progresses (fun s more => Stream.rest_advance_lt more) groupingParts (by simp)
    (fun _ => rfl) fun steps parts s => ?_
  simp only [listRound, groupingParts, groupingLabel, behind]
  cases s.kind <;> simp

theorem matcherRound_progresses :
    Progresses (listRound .rightBrace labelMatcher) Prod.snd fun x : List Part × Stream =>
      behind x.1 (matcherParts x.2.rest.length x.2) := by
  refine listRound_progresses (fun s more => ?_) matcherParts (by simp) (fun _ => rfl)
    fun steps parts s => ?_
  · exact Nat.lt_of_le_of_lt (comparison_reads 0 s.advance).rest_length_le
      (Stream.rest_advance_lt more)
  · simp only [listRound, matcherParts, behind]
    cases s.kind <;> simp

/-- A round over tokens that fit nowhere. -/
def strayRound (stops : Token.Kind → Bool) :
    List Node × Stream → (List Node × Stream) ⊕ (List Node × Stream)
  | (nodes, s) =>
    match s.rest with
    | [] => .inr (nodes, s)
    | t :: _ =>
      if stops t.kind then .inr (nodes, s)
      else
        let (error, s) := s.stray
        .inl (nodes ++ [error], s)

theorem strayRound_progresses (stops : Token.Kind → Bool) :
    Progresses (strayRound stops) Prod.snd fun x : List Node × Stream =>
      (x.1 ++ (x.2.strays stops).1, (x.2.strays stops).2) where
  consumes := by
    rintro ⟨nodes, s⟩ x' goes
    simp only [strayRound] at goes
    split at goes
    · cases goes
    · rename_i t rest next
      split at goes
      · cases goes
      · cases goes
        simp [Stream.stray, next]
  ends := by
    rintro ⟨nodes, s⟩
    obtain ⟨n, size⟩ : ∃ n, n = s.rest.length := ⟨_, rfl⟩
    induction n generalizing nodes s with
    | zero =>
      have finished : s.rest = [] := List.length_eq_zero_iff.mp size.symm
      rw [strays_nil stops finished]
      exact .stop (by simp [strayRound, finished])
    | succ n ih =>
      obtain ⟨t, rest, next⟩ := List.exists_cons_of_length_eq_add_one size.symm
      cases stopped : stops t.kind with
      | true =>
        rw [strays_stop stops next stopped]
        exact .stop (by simp [strayRound, next, stopped])
      | false =>
        rw [strays_cons stops next stopped]
        have later := ih (nodes ++ [s.stray.1]) s.stray.2 (by simp_all [Stream.stray])
        rw [List.append_assoc] at later
        exact .next (by simp [strayRound, next, stopped]) later

/-- A round over all that is left where expressions nest too deep. -/
def swallowRound (s : Stream) : Stream ⊕ Stream :=
  match s.rest with
  | [] => .inr s
  | _ :: _ => .inl s.advance

theorem swallowRound_progresses :
    Progresses swallowRound id fun s => s.swallow.2 where
  consumes := by
    intro s s' goes
    unfold swallowRound at goes
    split at goes
    · cases goes
    · rename_i t rest next
      cases goes
      simp [next]
  ends := by
    intro s
    obtain ⟨rest, finish, last⟩ := s
    induction rest generalizing last with
    | nil => exact .stop rfl
    | cons t rest ih =>
      have later := ih t.stop
      have same : (Stream.mk (t :: rest) finish last).swallow.2 =
          (Stream.mk rest finish t.stop).swallow.2 := by
        cases rest <;> rfl
      rw [same]
      exact .next rfl later

variable {sub : Sub} {depth : Nat}

/-- A round over the arguments of a call. -/
def argumentRound (sub : Sub) : List Part × Stream → (List Part × Stream) ⊕ (List Part × Stream)
  | (parts, s) =>
    let (argument, s) := argument sub s
    let (strays, s) := s.strays endsArgument
    let parts := parts ++ argument :: strays.map .stray
    match s.kind with
    | .comma => .inl (parts, s.advance)
    | .rightParen => .inr (parts, s.advance)
    | _ => .inr (parts, s)

theorem argumentRound_progresses (sound : SubReads sub depth) :
    Progresses (argumentRound sub) Prod.snd fun x : List Part × Stream =>
      behind x.1 (callParts sub (x.2.rest.length + 1) x.2) := by
  refine .of_steps (fun steps (x : List Part × Stream) =>
    behind x.1 (callParts sub (steps + 1) x.2)) ?_ ?_ ?_
  · rintro ⟨parts, s⟩ x' goes
    have read := (argument_reads sound s).1.rest_length_le
    have skipped := (strays_reads 0 (argument sub s).2 endsArgument).rest_length_le
    simp only [argumentRound] at goes
    split at goes
    · rename_i comma
      cases goes
      have comma_read := Stream.rest_advance_lt (by rw [comma]; simp)
      exact Nat.lt_of_lt_of_le comma_read (Nat.le_trans skipped read)
    · cases goes
    · cases goes
  · rintro ⟨parts, s⟩ finished
    have starts : s.startsExpr = false := by
      simp only [Stream.startsExpr, Stream.kind_of_nil finished]
    simp [argumentRound, behind, callParts, argument, starts, strays_nil endsArgument finished,
      Stream.kind_of_nil finished]
  · rintro steps ⟨parts, s⟩
    simp only [argumentRound, behind]
    rw [callParts]
    dsimp only
    cases ((argument sub s).2.strays endsArgument).2.kind <;> simp

/-- What a range reads does not depend on the expression before it. -/
theorem range_rest (e : Node) (s : Stream) :
    ∃ forest, Reads s.advance forest (range e s).2 := by
  have duration := (rangeDuration_reads 0 s.advance).1
  unfold range
  generalize rangeDuration s.advance = length at duration ⊢
  obtain ⟨node, after⟩ := length
  dsimp only at duration ⊢
  by_cases colon : after.kind = .colon
  · have step := (rangeStep_reads 0 after.advance).1
    have silent : Reads after [] after.advance := .punctuation (by rw [colon]; rfl)
    simp only [colon, ↓reduceIte]
    exact ⟨_, (duration.append (silent.trans step)).then_silent (.skip _ .rightBracket rfl)⟩
  · simp only [colon, ↓reduceIte]
    exact ⟨_, duration.then_silent (.skip _ .rightBracket rfl)⟩

theorem offset_rest (e : Node) (s : Stream) :
    ∃ forest, Reads s.advance forest (offset e s).2 := by
  change ∃ forest, Reads s.advance forest (offsetDuration s.advance).2
  cases signed : atSigned s.advance with
  | true =>
    obtain ⟨sign, length, rest, next, isSign, isLength⟩ := rest_of_atSigned signed
    rw [offsetDuration_signed next isSign isLength]
    -- The two tokens make one leaf, but they are read one after the other.
    have minus := Reads.errorLeaf 0 (s := s.advance)
      (by rw [Stream.kind_of_rest next, isSign]; simp)
    rw [Stream.advance_cons next] at minus
    have duration := Reads.errorLeaf 0 (s := ⟨length :: rest, s.advance.finish, sign.stop⟩) (by
      intro ends
      rw [Stream.kind_cons] at ends
      rw [ends] at isLength
      cases isLength)
    exact ⟨_, minus.append duration⟩
  | false => exact ⟨_, (offsetDuration_reads 0 signed).1⟩

theorem postfixes_rest (steps : Nat) (e : Node) (s : Stream) :
    ∃ forest, Reads s forest (postfixes steps e s).2 := by
  induction steps generalizing e s with
  | zero => exact ⟨_, .done⟩
  | succ steps ih =>
    rw [postfixes]
    split
    · rename_i opens
      obtain ⟨inner, read⟩ := range_rest e s
      obtain ⟨more, later⟩ := ih (range e s).1 (range e s).2
      have bracket : Reads s [] s.advance := .punctuation (by rw [opens]; rfl)
      exact ⟨_, (bracket.trans read).append later⟩
    · split
      · rename_i found
        obtain ⟨inner, read⟩ := offset_rest e s
        obtain ⟨more, later⟩ := ih (offset e s).1 (offset e s).2
        exact ⟨_, ((Reads.keyword 0 .keywordOffset rfl found).append read).append later⟩
      · exact ⟨_, .done⟩

/-- A round over ranges and offsets. -/
def postfixRound : Node × Stream → (Node × Stream) ⊕ (Node × Stream)
  | (e, s) =>
    if s.kind = .leftBracket then .inl (range e s)
    else if s.atKeyword "offset" then .inl (offset e s)
    else .inr (e, s)

theorem postfixRound_progresses :
    Progresses postfixRound Prod.snd fun x : Node × Stream =>
      postfixes x.2.rest.length x.1 x.2 := by
  refine .of_steps (fun steps (x : Node × Stream) => postfixes steps x.1 x.2) ?_ ?_ ?_
  · rintro ⟨e, s⟩ x' goes
    simp only [postfixRound] at goes
    split at goes
    · rename_i opens
      cases goes
      obtain ⟨forest, read⟩ := range_rest e s
      exact Nat.lt_of_le_of_lt read.rest_length_le
        (Stream.rest_advance_lt (by rw [opens]; simp))
    · split at goes
      · rename_i found
        cases goes
        obtain ⟨name, same⟩ := Stream.kind_of_atKeyword found
        obtain ⟨forest, read⟩ := offset_rest e s
        exact Nat.lt_of_le_of_lt read.rest_length_le
          (Stream.rest_advance_lt (by rw [same]; simp))
      · cases goes
  · rintro ⟨e, s⟩ finished
    have ends := Stream.kind_of_nil finished
    have keyword : s.atKeyword "offset" = false := by
      cases found : s.atKeyword "offset" with
      | false => rfl
      | true =>
        obtain ⟨name, same⟩ := Stream.kind_of_atKeyword found
        cases ends.symm.trans same
    simp [postfixRound, postfixes, ends, keyword]
  · rintro steps ⟨e, s⟩
    simp only [postfixRound, postfixes]
    split
    · rfl
    · split <;> rfl

/-- A round over binary operators. -/
def binaryRound (sub : Sub) (least : Nat) : Node × Stream → (Node × Stream) ⊕ (Node × Stream)
  | (lhs, s) =>
    match s.binaryOp? with
    | none => .inr (lhs, s)
    | some op => if op.precedence < least then .inr (lhs, s) else .inl (binary sub op lhs s)

theorem binary_consumes (sound : SubReads sub depth) (op : BinaryOp) (lhs : Node) {s : Stream}
    (more : s.kind ≠ .endOfInput) : (binary sub op lhs s).2.rest.length < s.rest.length := by
  have symbol := Stream.rest_advance_lt more
  have modifiers := (binModifiers_reads 0 s.advance).1.rest_length_le
  have rhs := (expectExpr_reads sound op.rightPrecedence (binModifiers s.advance).2).rest_length_le
  exact Nat.lt_of_le_of_lt (Nat.le_trans rhs modifiers) symbol

theorem binaryRound_progresses (sound : SubReads sub depth) (least : Nat) :
    Progresses (binaryRound sub least) Prod.snd fun x : Node × Stream =>
      binaries sub least x.2.rest.length x.1 x.2 := by
  refine .of_steps (fun steps (x : Node × Stream) => binaries sub least steps x.1 x.2) ?_ ?_ ?_
  · rintro ⟨lhs, s⟩ x' goes
    simp only [binaryRound] at goes
    split at goes
    · cases goes
    · rename_i op found
      split at goes
      · cases goes
      · cases goes
        exact binary_consumes sound op lhs (Stream.kind_of_binaryOp? found)
  · rintro ⟨lhs, s⟩ finished
    have none : s.binaryOp? = none := by
      simp only [Stream.binaryOp?, Stream.kind_of_nil finished]
    simp only [binaryRound, none, binaries]
  · rintro steps ⟨lhs, s⟩
    simp only [binaryRound, binaries]
    cases s.binaryOp? with
    | none => rfl
    | some op =>
      dsimp only
      split <;> rfl

/-- What is read into a node that is there has a token at least. -/
theorem Reads.consumes {s after : Stream} {forest : List Grown}
    (read : Reads s forest after) (present : ∃ x ∈ forest, x.2.kind ≠ .error) :
    after.rest.length < s.rest.length := by
  induction read with
  | done => simp at present
  | append first next front back =>
    obtain ⟨x, member, there⟩ := present
    have firstLe := first.rest_length_le
    have nextLe := next.rest_length_le
    rcases List.mem_append.mp member with early | late
    · have less := front ⟨x, early, there⟩
      omega
    · have less := back ⟨x, late, there⟩
      omega
  | punctuation => simp at present
  | @leaf s depth kind isLeaf more invalid =>
    rw [Stream.rest_advance, List.length_tail]
    have nonempty := List.length_pos_iff.mpr more
    omega
  | missing s depth => simp [Stream.missing] at present
  | swallow starts => simp [Stream.swallow] at present
  | @branch s after forest depth start stop kind inner rule edges levels binds made ih =>
    by_cases paren : kind = .parenExpr
    · exact (made.spans paren).2.2
    · obtain ⟨k, member, there⟩ := rule.exists_present made.single paren
      obtain ⟨x, inside, rfl⟩ := List.mem_map.mp member
      exact ih ⟨x, inside, there⟩
  | list _ _ _ _ opens _ _ => exact opens
  | @offsetBack s middle expr depth keyword sign length rest operand isExpr next _ _ _ ih =>
    have before := operand.rest_length_le
    rw [next] at before
    simp only [List.length_cons] at before
    dsimp only
    omega

/-- An expression that starts takes a token or more. -/
theorem expr_consumes (depth least : Nat) {s : Stream} (starts : s.startsExpr = true) :
    (expr depth least s).2.rest.length < s.rest.length := by
  have sound := expr_subReads depth
  rcases sound.operand least s starts with ⟨-, isExpr⟩ | ⟨-, -, finished⟩
  · exact (sound.reads least s starts).consumes ⟨_, List.mem_cons_self, by simp [isExpr]⟩
  · obtain ⟨t, rest, next⟩ := Stream.rest_of_kind (Stream.kind_of_startsExpr starts)
    rw [finished, next]
    exact Nat.succ_pos _

/-- Every loop of the parser goes on only where it reads. -/
structure LoopsProgress : Prop where
  labels : Progresses (listRound .rightParen groupingLabel) Prod.snd fun x : List Part × Stream =>
    behind x.1 (groupingParts x.2.rest.length x.2)
  matchers : Progresses (listRound .rightBrace labelMatcher) Prod.snd fun x : List Part × Stream =>
    behind x.1 (matcherParts x.2.rest.length x.2)
  /-- Behind the expression of the input, in parentheses, and behind an argument. -/
  strays : ∀ stops, Progresses (strayRound stops) Prod.snd fun x : List Node × Stream =>
    (x.1 ++ (x.2.strays stops).1, (x.2.strays stops).2)
  swallow : Progresses swallowRound id fun s => s.swallow.2
  postfixes : Progresses postfixRound Prod.snd fun x : Node × Stream =>
    postfixes x.2.rest.length x.1 x.2
  arguments : ∀ depth, Progresses (argumentRound (expr depth)) Prod.snd
    fun x : List Part × Stream => behind x.1 (callParts (expr depth) (x.2.rest.length + 1) x.2)
  operators : ∀ depth least, Progresses (binaryRound (expr depth) least) Prod.snd
    fun x : Node × Stream => binaries (expr depth) least x.2.rest.length x.1 x.2

theorem loopsProgress : LoopsProgress where
  labels := groupingRound_progresses
  matchers := matcherRound_progresses
  strays := strayRound_progresses
  swallow := swallowRound_progresses
  postfixes := postfixRound_progresses
  arguments depth := argumentRound_progresses (expr_subReads depth)
  operators depth := binaryRound_progresses (expr_subReads depth)

end MetricQuery.Parser
