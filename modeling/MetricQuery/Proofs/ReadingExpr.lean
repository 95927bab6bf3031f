import MetricQuery.Proofs.ReadingList

/-!
The productions that hold expressions read as the rules allow, provided that the parser of the
expressions inside them does. The depth of nesting goes down by one from an expression to those
inside it, so every expression is covered.
-/

set_option autoImplicit false

namespace MetricQuery

theorem Node.binds_of_kind {n : Node} (notBinary : n.kind ≠ .binaryExpr)
    (notUnary : n.kind ≠ .unaryExpr) : n.Binds :=
  ⟨fun same => absurd same notBinary, fun same => absurd same notUnary⟩

theorem Stream.current_advance {s : Stream} (more : s.rest ≠ []) :
    s.advance.current = s.second := by
  obtain ⟨t, rest, next⟩ := List.exists_cons_of_ne_nil more
  rw [Stream.advance_cons next]
  cases rest with
  | nil => simp only [Stream.current, Stream.second, next]
  | cons u rest => simp only [Stream.current, Stream.second, next]

namespace Parser

/-- What the parser of nested expressions does where an expression starts: it reads one, `depth`
levels above the deepest, whose operators bind at least as tight as asked, and stops before the
first operator that does not. -/
structure SubReads (sub : Sub) (depth : Nat) : Prop where
  reads : ∀ least s, s.startsExpr = true → Reads s [(depth, (sub least s).1)] (sub least s).2
  operand : ∀ least s, s.startsExpr = true →
    0 < depth ∧ (sub least s).1.kind = .expr ∨
      depth = 0 ∧ (sub least s).1.kind = .error ∧ (sub least s).2.rest = []
  binds : ∀ least s, s.startsExpr = true → (sub least s).1.BindsAtLeast least
  next : ∀ least s op, s.startsExpr = true → (sub least s).2.binaryOp? = some op →
    op.precedence < least

theorem SubReads.kind {sub : Sub} {depth : Nat} (sound : SubReads sub depth) (least : Nat)
    (s : Stream) (starts : s.startsExpr = true) : OperandKind (sub least s).1.kind := by
  rcases sound.operand least s starts with ⟨-, isExpr⟩ | ⟨-, isError, -⟩
  · exact .inl isExpr
  · exact .inr isError

/-- An operand without operators on top. -/
structure Simple (n : Node) : Prop where
  kind : n.kind = .expr
  inner : ∀ c ∈ n.children, c.kind ≠ .binaryExpr ∧ c.kind ≠ .unaryExpr

theorem Simple.wrap {n : Node} (notBinary : n.kind ≠ .binaryExpr) (notUnary : n.kind ≠ .unaryExpr) :
    Simple (.wrap .expr n) := by
  refine ⟨rfl, ?_⟩
  intro c member
  rw [Node.wrap_children, List.mem_singleton] at member
  subst member
  exact ⟨notBinary, notUnary⟩

variable {sub : Sub} {depth : Nat}

theorem expectExpr_reads (sound : SubReads sub depth) (least : Nat) (s : Stream) :
    Reads s [(depth, (expectExpr sub least s).1)] (expectExpr sub least s).2 := by
  unfold expectExpr
  split
  · rename_i starts
    exact sound.reads least s starts
  · exact .missing s depth

theorem expectExpr_kind (sound : SubReads sub depth) (least : Nat) (s : Stream) :
    OperandKind (expectExpr sub least s).1.kind := by
  unfold expectExpr
  split
  · rename_i starts
    exact sound.kind least s starts
  · exact .inr rfl

theorem expectExpr_binds (sound : SubReads sub depth) (least : Nat) (s : Stream) :
    (expectExpr sub least s).1.BindsAtLeast least := by
  unfold expectExpr
  split
  · rename_i starts
    exact sound.binds least s starts
  · intro inner member
    cases member

/-- An operator that follows an operand binds less tight than the operand had to. -/
theorem expectExpr_next (sound : SubReads sub depth) (least : Nat) (s : Stream) (op : BinaryOp)
    (present : (expectExpr sub least s).1.kind ≠ .error)
    (found : (expectExpr sub least s).2.binaryOp? = some op) : op.precedence < least := by
  unfold expectExpr at present found
  split at found
  · rename_i starts
    exact sound.next least s op starts found
  · rename_i starts
    rw [if_neg starts] at present
    exact absurd rfl present

theorem argument_reads (sound : SubReads sub depth) (s : Stream) :
    Reads s [(argument sub s).1.grown depth true] (argument sub s).2 ∧
      (argument sub s).1.Fits .functionCallBody .functionCallArgs := by
  unfold argument
  split
  · rename_i starts
    exact ⟨sound.reads 0 s starts, .arguments (sound.kind 0 s starts)⟩
  · exact ⟨.missing s (depth + 1), rfl⟩

theorem callParts_reads (sound : SubReads sub depth) (steps : Nat) (s : Stream) :
    Reads s ((callParts sub steps s).1.map (Part.grown depth true)) (callParts sub steps s).2 ∧
      ∀ part ∈ (callParts sub steps s).1, part.Fits .functionCallBody .functionCallArgs := by
  induction steps generalizing s with
  | zero => exact ⟨.done, List.forall_mem_nil _⟩
  | succ steps ih =>
    obtain ⟨first, firstFits⟩ := argument_reads sound s
    rw [callParts]
    generalize argument sub s = taken at first firstFits ⊢
    obtain ⟨argument, middle⟩ := taken
    have strays := strays_reads (depth + 1) middle endsArgument
    have strayKinds := strays_kind middle endsArgument
    dsimp only at first firstFits ⊢
    generalize middle.strays endsArgument = skipped at strays strayKinds ⊢
    obtain ⟨errors, after⟩ := skipped
    dsimp only at strays strayKinds ⊢
    have grown : errors.map (Prod.mk (depth + 1)) =
        (errors.map Part.stray).map (Part.grown depth true) := by
      rw [List.map_map]
      rfl
    have fits : ∀ part ∈ argument :: errors.map Part.stray,
        part.Fits .functionCallBody .functionCallArgs := by
      refine List.forall_mem_cons.mpr ⟨firstFits, ?_⟩
      intro part member
      obtain ⟨n, among, rfl⟩ := List.mem_map.mp member
      exact strayKinds n among
    rw [grown] at strays
    have parts := first.append strays
    split
    · rename_i comma
      obtain ⟨more, moreFits⟩ := ih after.advance
      constructor
      · rw [List.map_append]
        exact (parts.then_silent (.punctuation (by rw [comma]; rfl))).append more
      · exact List.forall_mem_append.mpr ⟨fits, moreFits⟩
    · rename_i close
      exact ⟨parts.then_silent (.punctuation (by rw [close]; rfl)), fits⟩
    · exact ⟨parts, fits⟩

/-- Where no argument can be read, the first one takes in all that is left. -/
theorem callParts_whole (sound : SubReads sub depth) (steps : Nat) (s : Stream) :
    Part.Whole depth (callParts sub steps s).1 := by
  induction steps generalizing s with
  | zero => exact .inl (by simp [callParts])
  | succ steps ih =>
    by_cases starts : s.startsExpr = true
    · rcases sound.operand 0 s starts with ⟨deep, isExpr⟩ | ⟨flat, isError, finished⟩
      · left
        have rest := (ih ((sub 0 s).2.strays endsArgument).2.advance).resolve_right (by omega)
        intro n member
        simp only [callParts, argument, starts, ↓reduceIte] at member
        split at member
        · simp only [List.cons_append, List.mem_cons, Part.item.injEq, List.mem_append,
            List.mem_map, reduceCtorEq, and_false, exists_false, false_or] at member
          rcases member with rfl | later
          · simp [isExpr]
          · exact rest n later
        · simp only [List.mem_cons, Part.item.injEq, List.mem_map, reduceCtorEq, and_false,
            exists_false, or_false] at member
          simp [member, isExpr]
        · simp only [List.mem_cons, Part.item.injEq, List.mem_map, reduceCtorEq, and_false,
            exists_false, or_false] at member
          simp [member, isExpr]
      · right
        refine ⟨flat, ?_⟩
        have ends := Stream.kind_of_nil finished
        simp [callParts, argument, starts, strays_nil endsArgument finished, ends, Part.item?]
    · have strays : ∀ errors : List Node,
          (errors.map Part.stray).filterMap Part.item? = [] := by
        intro errors
        simp [List.filterMap_map, Function.comp_def, Part.item?]
      simp only [callParts, argument, starts, Bool.false_eq_true, ↓reduceIte]
      split
      · rcases ih (s.strays endsArgument).2.advance with all | ⟨flat, few⟩
        · left
          intro n member
          simp only [List.cons_append, List.mem_cons, reduceCtorEq, List.mem_append, List.mem_map,
            and_false, exists_false, false_or] at member
          exact all n member
        · right
          refine ⟨flat, ?_⟩
          rw [List.cons_append, List.filterMap_cons_none (by rfl), List.filterMap_append, strays]
          exact few
      · left
        simp
      · left
        simp

theorem callBody_reads (sound : SubReads sub depth) {s : Stream} (opens : s.kind = .leftParen) :
    Reads s [(depth + 1, (callBody sub s).1)] (callBody sub s).2 := by
  have silent : s.kind.isPunctuation = true := by rw [opens]; rfl
  have known : ∃ item, ListRule .functionCallBody .functionCallArgs item :=
    ⟨_, .arguments (.inl rfl)⟩
  have inner : Reads s.advance ((arguments sub s.advance).1.map (Part.grown depth true))
      (arguments sub s.advance).2 ∧ (∀ part ∈ (arguments sub s.advance).1,
        part.Fits .functionCallBody .functionCallArgs) ∧
      Part.Whole depth (arguments sub s.advance).1 := by
    unfold arguments
    split
    · rename_i close
      exact ⟨.punctuation (by rw [close]; rfl), List.forall_mem_nil _, .inl (by simp)⟩
    · obtain ⟨read, fits⟩ := callParts_reads sound (s.advance.rest.length + 1) s.advance
      exact ⟨read, fits, callParts_whole sound _ _⟩
  exact .list .functionCallArgs (Reads.trans (.punctuation silent) inner.1) inner.2.1 known
    (inner.1.rest_length_lt silent) inner.2.2

theorem functionCall_reads (sound : SubReads sub depth) {s : Stream} {name : String}
    (found : s.kind = .ident name) (opens : s.advance.kind = .leftParen) (called : String) :
    Reads s [(depth + 1, (functionCall sub called s).1)] (functionCall sub called s).2 := by
  have body := callBody_reads sound opens
  have call : ∀ kind : NodeKind, kind.isLeaf = true →
      (kind = .identifier ∨ ∃ f, kind = .function f) →
      Reads s [(depth + 1, .wrap .expr (.branch .functionCall (s.leaf kind).1.start
        (s.leaf kind).1.stop [.wrap .functionIdentifier (s.leaf kind).1,
          (callBody sub s.advance).1]))] (callBody sub s.advance).2 := by
    intro kind isLeaf known
    have ident := (Reads.ident (depth + 1) kind isLeaf found).wrap .functionIdentifier rfl
      (.functionIdentifier known)
    refine (Reads.node .functionCall [_, _] (ident.append body) rfl .functionCall ?_).wrap .expr
      rfl (.expr rfl)
    refine ⟨.inl rfl, .inr ⟨_, List.mem_cons_self, .inr ?_⟩⟩
    exact (Node.wrap_leaf_stop _ _ _ _).symm
  unfold functionCall
  cases QueryFunction.ofName? called with
  | some f => exact call (.function f) rfl (.inr ⟨f, rfl⟩)
  | none => exact call .identifier rfl (.inl rfl)

theorem earlyGrouping_reads (depth : Nat) (s : Stream) :
    Reads s ((earlyGrouping s).1.map (Prod.mk depth)) (earlyGrouping s).2 := by
  unfold earlyGrouping
  split
  · rename_i found
    exact aggregateModifier_reads depth found
  · exact .done

theorem earlyGrouping_kinds (s : Stream) :
    (s.atGrouping = true ∧ (earlyGrouping s).1.map Node.kind = [.aggregateModifier]) ∨
      (s.atGrouping = false ∧ (earlyGrouping s).1.map Node.kind = []) := by
  unfold earlyGrouping
  cases s.atGrouping with
  | true => exact .inl ⟨rfl, rfl⟩
  | false => exact .inr ⟨rfl, rfl⟩

theorem lateGrouping_reads (depth : Nat) (early : Bool) (s : Stream) :
    Reads s ((lateGrouping early s).1.map (Prod.mk depth)) (lateGrouping early s).2 := by
  unfold lateGrouping
  split
  · rename_i found
    exact aggregateModifier_reads depth (Bool.and_eq_true_iff.mp found).2
  · split
    · rename_i found
      obtain ⟨name, same⟩ := Stream.kind_of_atStrayIdent found
      obtain ⟨t, rest, next⟩ := Stream.rest_of_kind (s := s) (by simp [same])
      exact .stray depth (by simp [next])
    · exact .done

theorem strayNode_kind (t : Token) : (Stream.strayNode t).kind = .error := by
  unfold Stream.strayNode
  split <;> rfl

theorem lateGrouping_kinds (early : Bool) (s : Stream) :
    let kinds := (lateGrouping early s).1.map Node.kind
    kinds = [] ∨ kinds = [.error] ∨ early = false ∧ kinds = [.aggregateModifier] := by
  unfold lateGrouping
  split
  · rename_i found
    have late := (Bool.and_eq_true_iff.mp found).1
    exact .inr (.inr ⟨by simpa using late, rfl⟩)
  · split
    · exact .inr (.inl (congrArg ([·]) (strayNode_kind s.current)))
    · exact .inl rfl

theorem expectCallBody_reads (sound : SubReads sub depth) (s : Stream) :
    Reads s [(depth + 1, (expectCallBody sub s).1)] (expectCallBody sub s).2 := by
  unfold expectCallBody
  split
  · rename_i opens
    exact callBody_reads sound opens
  · exact .missing s (depth + 1)

theorem expectCallBody_kind (sub : Sub) (s : Stream) :
    (expectCallBody sub s).1.kind = .functionCallBody ∨ (expectCallBody sub s).1.kind = .error := by
  unfold expectCallBody
  split
  · exact .inl rfl
  · exact .inr rfl

theorem aggregate_reads (sound : SubReads sub depth) {s : Stream} {name : String}
    (found : s.kind = .ident name) (op : Aggregator) :
    Reads s [(depth + 1, (aggregate sub op s).1)] (aggregate sub op s).2 := by
  have symbol := (Reads.ident (depth + 1) (.aggregator op) rfl found).wrap .aggregateOp rfl
    (.aggregateOp op)
  have before := earlyGrouping_reads (depth + 1) s.advance
  have beforeKinds := earlyGrouping_kinds s.advance
  unfold aggregate
  dsimp only [Stream.leaf]
  generalize s.advance.atGrouping = early at beforeKinds ⊢
  generalize earlyGrouping s.advance = grouped at before beforeKinds ⊢
  obtain ⟨front, middle⟩ := grouped
  have body := expectCallBody_reads sound middle
  have bodyKind := expectCallBody_kind sub middle
  dsimp only at before beforeKinds ⊢
  generalize expectCallBody sub middle = called at body bodyKind ⊢
  obtain ⟨inner, rest⟩ := called
  have after := lateGrouping_reads (depth + 1) early rest
  have afterKinds := lateGrouping_kinds early rest
  dsimp only at body bodyKind ⊢
  generalize lateGrouping early rest = grouped at after afterKinds ⊢
  obtain ⟨back, finish⟩ := grouped
  have whole := ((symbol.append before).append body).append after
  refine (Reads.node .aggregateExpr _ ?_ rfl ?_ ?_).wrap .expr rfl (.expr rfl)
  · simpa [Stream.leaf] using whole
  · have rule : Rule .aggregateExpr
        (.aggregateOp :: front.map Node.kind ++ inner.kind :: back.map Node.kind) := by
      refine .aggregateExpr bodyKind ?_ ?_
      · exact beforeKinds.elim (fun h => .inr h.2) (fun h => .inl h.2)
      · rcases afterKinds with none | error | ⟨late, modifier⟩
        · exact .inl none
        · exact .inr (.inl error)
        · rcases beforeKinds with ⟨contrary, -⟩ | ⟨-, absent⟩
          · rw [late] at contrary
            cases contrary
          · exact .inr (.inr ⟨absent, modifier⟩)
    simpa using rule
  · refine ⟨.inl rfl, .inr ⟨_, List.mem_cons_self, .inr ?_⟩⟩
    exact (Node.wrap_leaf_stop _ _ _ _).symm

theorem paren_reads (sound : SubReads sub depth) {s : Stream} (opens : s.kind = .leftParen) :
    Reads s [(depth + 1, (paren sub s).1)] (paren sub s).2 := by
  have silent : s.kind.isPunctuation = true := by rw [opens]; rfl
  have bracket : Reads s [] s.advance := .punctuation silent
  have inner := expectExpr_reads sound 0 s.advance
  have kind := expectExpr_kind sound 0 s.advance
  unfold paren
  dsimp only
  generalize expectExpr sub 0 s.advance = read at inner kind ⊢
  obtain ⟨node, middle⟩ := read
  have strays := strays_reads (depth + 1) middle closesParen
  have strayKinds := strays_kind middle closesParen
  dsimp only at inner kind ⊢
  generalize middle.strays closesParen = skipped at strays strayKinds ⊢
  obtain ⟨errors, after⟩ := skipped
  dsimp only at strays strayKinds ⊢
  have whole := ((bracket.trans inner).append strays).then_silent (Reads.skip after .rightParen rfl)
  have shorter : (after.skip .rightParen).rest.length < s.rest.length :=
    ((inner.append strays).then_silent (Reads.skip after .rightParen rfl)).rest_length_lt silent
  refine (Reads.ofForest .parenExpr whole ?_ ?_ ⟨.inl rfl, .inl rfl⟩ ?_ ?_
    ⟨rfl, fun _ => ⟨rfl, rfl, shorter⟩⟩).wrap .expr rfl (.expr rfl)
  · simp [Function.comp_def]
  · refine .parenExpr kind ?_
    intro k member
    obtain ⟨n, among, rfl⟩ := List.mem_map.mp member
    exact strayKinds n among
  · intro i x found
    cases i with
    | zero =>
      cases found
      rfl
    | succ i =>
      simp only [List.cons_append, List.nil_append, List.getElem?_cons_succ, List.getElem?_map,
        Option.map_eq_some_iff] at found
      obtain ⟨n, -, rfl⟩ := found
      rfl
  · exact Node.binds_of_kind (by simp) (by simp)

theorem vectorSelector_simple (s : Stream) : Simple (vectorSelector s).1 := by
  unfold vectorSelector
  dsimp only
  split
  · exact .wrap (by simp) (by simp)
  · exact .wrap (by simp) (by simp)

theorem identExpr_reads (sound : SubReads sub depth) {s : Stream} {name : String}
    (found : s.kind = .ident name) :
    Reads s [(depth + 1, (identExpr sub name s).1)] (identExpr sub name s).2 ∧
      Simple (identExpr sub name s).1 := by
  obtain ⟨t, rest, next⟩ := Stream.rest_of_kind (s := s) (by simp [found])
  have second : s.advance.kind = s.second.kind := by
    rw [Stream.kind, Stream.current_advance (by simp [next])]
  unfold identExpr
  dsimp only
  split
  · rename_i op _
    exact ⟨aggregate_reads sound found op, .wrap (by simp) (by simp)⟩
  · split
    · rename_i opens
      exact ⟨functionCall_reads sound found (second.trans opens) name, .wrap (by simp) (by simp)⟩
    · split
      · have literal := Reads.ident (depth + 1) .numberLiteral rfl found
        exact ⟨literal.wrap .expr rfl (.expr rfl), .wrap (by simp) (by simp)⟩
      · exact ⟨vectorSelector_reads (depth + 1) found, vectorSelector_simple s⟩

/-- An operand where an expression starts without a sign, and an empty error elsewhere. -/
theorem primary_reads (sound : SubReads sub depth) (s : Stream) :
    Reads s [(depth + 1, (primary sub s).1)] (primary sub s).2 ∧
      (Simple (primary sub s).1 ∨
        (primary sub s).1.kind = .error ∧
          (s.startsExpr = false ∨ s.kind = .plus ∨ s.kind = .minus)) := by
  unfold primary
  split
  · rename_i found
    have literal := Reads.token (depth + 1) .numberLiteral rfl (s := s) (by simp [found])
      (by simp [found])
    exact ⟨literal.wrap .expr rfl (.expr rfl), .inl (.wrap (by simp) (by simp))⟩
  · rename_i found
    have literal := Reads.token (depth + 1) .stringLiteral rfl (s := s) (by simp [found])
      (by simp [found])
    exact ⟨literal.wrap .expr rfl (.expr rfl), .inl (.wrap (by simp) (by simp))⟩
  · rename_i opens
    exact ⟨paren_reads sound opens, .inl (.wrap (by simp) (by simp))⟩
  · rename_i opens
    have selector := (labelMatchers_reads (depth + 1) opens).wrap .vectorSelector rfl
      (.vectorSelector (.inr (.inr rfl)))
    exact ⟨selector.wrap .expr rfl (.expr rfl), .inl (.wrap (by simp) (by simp))⟩
  · rename_i name found
    have read := identExpr_reads sound found
    exact ⟨read.1, .inl read.2⟩
  · refine ⟨.missing s (depth + 1), .inr ⟨rfl, ?_⟩⟩
    unfold Stream.startsExpr
    split <;> simp_all

theorem rangeDuration_reads (depth : Nat) (s : Stream) :
    Reads s [(depth, (rangeDuration s).1)] (rangeDuration s).2 ∧
      ((rangeDuration s).1.kind = .duration ∨ (rangeDuration s).1.kind = .error) := by
  unfold rangeDuration
  split
  · rename_i found
    exact ⟨.token depth .duration rfl (by simp [found]) (by simp [found]), .inl rfl⟩
  · rename_i found
    exact ⟨.errorLeaf depth (by simp [found]), .inr rfl⟩
  · rename_i found
    exact ⟨.errorLeaf depth (by simp [found]), .inr rfl⟩
  · exact ⟨.missing s depth, .inr rfl⟩

theorem rangeStep_reads (depth : Nat) (s : Stream) :
    Reads s ((rangeStep s).1.map (Prod.mk depth)) (rangeStep s).2 ∧
      ((rangeStep s).1.map Node.kind = [] ∨ (rangeStep s).1.map Node.kind = [.duration] ∨
        (rangeStep s).1.map Node.kind = [.error]) := by
  unfold rangeStep
  split
  · rename_i found
    exact ⟨.token depth .duration rfl (by simp [found]) (by simp [found]), .inr (.inl rfl)⟩
  · rename_i found
    exact ⟨.errorLeaf depth (by simp [found]), .inr (.inr rfl)⟩
  · exact ⟨.done, .inl rfl⟩

theorem range_reads {s middle : Stream} {e : Node} {depth : Nat}
    (operand : Reads s [(depth, e)] middle) (isExpr : e.kind = .expr)
    (opens : middle.kind = .leftBracket) :
    Reads s [(depth, (range e middle).1)] (range e middle).2 ∧ Simple (range e middle).1 := by
  have bracket := operand.then_silent (.punctuation (s := middle) (by rw [opens]; rfl))
  obtain ⟨duration, durationKind⟩ := rangeDuration_reads depth middle.advance
  unfold range
  generalize rangeDuration middle.advance = length at duration durationKind ⊢
  obtain ⟨node, after⟩ := length
  dsimp only at duration durationKind ⊢
  have edges : ∀ children finish, Edges s (e :: children) finish e.start finish.last :=
    fun _ _ => ⟨.inr ⟨e, List.mem_cons_self, rfl⟩, .inl rfl⟩
  by_cases colon : after.kind = .colon
  · simp only [colon, ↓reduceIte]
    obtain ⟨step, stepKinds⟩ := rangeStep_reads depth after.advance
    have silent : Reads after [] after.advance := .punctuation (by rw [colon]; rfl)
    have close := Reads.skip (rangeStep after.advance).2 .rightBracket rfl
    have whole := ((bracket.append duration).then_silent silent).append (step.then_silent close)
    refine ⟨?_, .wrap (by simp) (by simp)⟩
    refine (Reads.node .subqueryExpr _ whole rfl ?_ (edges _ _)).wrap .expr rfl (.expr rfl)
    simp only [List.map_cons, isExpr]
    exact .subqueryExpr durationKind stepKinds
  · simp only [colon, ↓reduceIte]
    have close := Reads.skip after .rightBracket rfl
    have whole := (bracket.append duration).then_silent close
    refine ⟨?_, .wrap (by simp) (by simp)⟩
    refine (Reads.node .matrixSelector [e, node] whole rfl ?_ (edges _ _)).wrap .expr rfl
      (.expr rfl)
    simp only [List.map_cons, isExpr]
    exact .matrixSelector durationKind

/-- Whether a minus before a duration follows. -/
def atSigned (s : Stream) : Bool := s.kind = .minus && isDuration s.second.kind

theorem rest_of_atSigned {s : Stream} (signed : atSigned s = true) :
    ∃ sign length rest, s.rest = sign :: length :: rest ∧ sign.kind = .minus ∧
      isDuration length.kind = true := by
  simp only [atSigned, Bool.and_eq_true, decide_eq_true_eq] at signed
  obtain ⟨minus, duration⟩ := signed
  obtain ⟨sign, tail, next⟩ := Stream.rest_of_kind (s := s) (by simp [minus])
  cases tail with
  | nil =>
    simp only [Stream.second, next, Token.finish, isDuration] at duration
    cases duration
  | cons length rest =>
    refine ⟨sign, length, rest, next, ?_, ?_⟩
    · rw [← Stream.kind_of_rest next, minus]
    · simpa only [Stream.second, next] using duration

theorem offsetDuration_signed {s : Stream} {sign length : Token} {rest : List Token}
    (next : s.rest = sign :: length :: rest) (isSign : sign.kind = .minus)
    (isLength : isDuration length.kind = true) :
    offsetDuration s = (.leaf .duration sign.start length.stop, ⟨rest, s.finish, length.stop⟩) := by
  have kind : s.kind = .minus := by rw [Stream.kind_of_rest next, isSign]
  have second : s.second = length := by simp only [Stream.second, next]
  unfold offsetDuration
  simp only [kind, second, isLength, decide_true, Bool.and_self, ↓reduceIte,
    Stream.advance_cons next, Stream.current_cons next, Stream.kind_cons]
  unfold isDuration at isLength
  split at isLength
  · rename_i text same
    simp only [same]
    rfl
  · cases isLength

theorem offsetDuration_reads (depth : Nat) {s : Stream} (unsigned : atSigned s = false) :
    Reads s [(depth, (offsetDuration s).1)] (offsetDuration s).2 ∧
      ((offsetDuration s).1.kind = .duration ∨ (offsetDuration s).1.kind = .error) := by
  unfold atSigned at unsigned
  unfold offsetDuration
  simp only [unsigned, Bool.false_eq_true, ↓reduceIte]
  split
  · rename_i found
    exact ⟨.token depth .duration rfl (by simp [found]) (by simp [found]), .inl rfl⟩
  · rename_i found
    exact ⟨.errorLeaf depth (by simp [found]), .inr rfl⟩
  · exact ⟨.missing s depth, .inr rfl⟩

theorem offset_reads {s middle : Stream} {e : Node} {depth : Nat}
    (operand : Reads s [(depth, e)] middle) (isExpr : e.kind = .expr)
    (found : middle.atKeyword "offset" = true) :
    Reads s [(depth, (offset e middle).1)] (offset e middle).2 ∧ Simple (offset e middle).1 := by
  refine ⟨?_, .wrap (by simp) (by simp)⟩
  cases signed : atSigned middle.advance with
  | true =>
    obtain ⟨sign, length, rest, after, isSign, isLength⟩ := rest_of_atSigned signed
    obtain ⟨name, ident⟩ := Stream.kind_of_atKeyword found
    obtain ⟨keyword, tail, next⟩ := Stream.rest_of_kind (s := middle) (by simp [ident])
    rw [Stream.rest_advance, next, List.tail_cons] at after
    subst after
    have isKeyword : keyword.isKeyword "offset" = true := by
      rwa [Stream.atKeyword, Stream.current_cons next] at found
    have made := (Reads.offsetBack operand isExpr next isKeyword isSign isLength).wrap .expr rfl
      (.expr rfl)
    unfold offset
    simp only [Stream.leaf, Stream.advance_cons next, Stream.current_cons next]
    rw [offsetDuration_signed rfl isSign isLength]
    exact made
  | false =>
    have keyword := operand.append (Reads.keyword depth .keywordOffset rfl found)
    obtain ⟨duration, kinds⟩ := offsetDuration_reads depth signed
    refine (Reads.node .offsetExpr [e, _, _] (keyword.append duration) rfl ?_ ?_).wrap .expr rfl
      (.expr rfl)
    · simp only [List.map_cons, isExpr]
      exact .offsetExpr kinds
    · exact ⟨.inr ⟨e, List.mem_cons_self, rfl⟩, .inl rfl⟩

theorem postfixes_reads {s middle : Stream} {e : Node} {depth : Nat} (steps : Nat)
    (operand : Reads s [(depth, e)] middle) (simple : Simple e) :
    Reads s [(depth, (postfixes steps e middle).1)] (postfixes steps e middle).2 ∧
      Simple (postfixes steps e middle).1 := by
  induction steps generalizing e middle with
  | zero => exact ⟨operand, simple⟩
  | succ steps ih =>
    rw [postfixes]
    split
    · rename_i opens
      obtain ⟨read, simple⟩ := range_reads operand simple.kind opens
      exact ih read simple
    · split
      · rename_i found
        obtain ⟨read, simple⟩ := offset_reads operand simple.kind found
        exact ih read simple
      · exact ⟨operand, simple⟩

theorem operand_reads (sound : SubReads sub depth) (s : Stream) :
    Reads s [(depth + 1, (operand sub s).1)] (operand sub s).2 ∧
      (Simple (operand sub s).1 ∨
        (operand sub s).1.kind = .error ∧
          (s.startsExpr = false ∨ s.kind = .plus ∨ s.kind = .minus)) := by
  obtain ⟨read, simple⟩ := primary_reads sound s
  unfold operand
  generalize primary sub s = first at read simple ⊢
  obtain ⟨e, after⟩ := first
  dsimp only at read simple ⊢
  split
  · exact ⟨read, simple⟩
  · rename_i present
    have whole := postfixes_reads after.rest.length read
      (simple.resolve_right fun error => present error.1)
    exact ⟨whole.1, .inl whole.2⟩

theorem Simple.bindsAtLeast {n : Node} (simple : Simple n) (least : Nat) : n.BindsAtLeast least :=
  fun c member same => absurd same (simple.inner c member).1

theorem Simple.closedBefore {n : Node} (simple : Simple n) (op : BinaryOp) : n.ClosedBefore op :=
  fun c member _ _ _ => ⟨fun same => absurd same (simple.inner c member).1,
    fun same => absurd same (simple.inner c member).2⟩

/-- What stands before the operators of an expression: a sign with its operand, or an operand. -/
theorem unary_reads (sound : SubReads sub depth) {s : Stream} (starts : s.startsExpr = true) :
    Reads s [(depth + 1, (unary sub s).1)] (unary sub s).2 ∧ (unary sub s).1.kind = .expr ∧
      (∀ least, (unary sub s).1.BindsAtLeast least) ∧
      ∀ op, (unary sub s).2.binaryOp? = some op → (unary sub s).1.ClosedBefore op := by
  unfold unary
  split
  · rename_i signs
    have valid : s.kind = .plus ∨ s.kind = .minus := by simpa using signs
    have sign : Reads s [(depth + 1, (s.leaf .unaryOp).1)] s.advance := by
      rcases valid with same | same
      · exact .token _ _ rfl (by simp [same]) (by simp [same])
      · exact .token _ _ rfl (by simp [same]) (by simp [same])
    have inner := expectExpr_reads sound BinaryOp.pow.precedence s.advance
    have kind := expectExpr_kind sound BinaryOp.pow.precedence s.advance
    have binds := expectExpr_binds sound BinaryOp.pow.precedence s.advance
    have next := expectExpr_next sound BinaryOp.pow.precedence s.advance
    dsimp only [Stream.leaf] at sign ⊢
    generalize expectExpr sub BinaryOp.pow.precedence s.advance = read at inner kind binds next ⊢
    obtain ⟨operand, after⟩ := read
    dsimp only at inner kind binds next ⊢
    refine ⟨?_, rfl, ?_, ?_⟩
    · refine (Reads.nestLast .unaryExpr [_] (fun _ _ => rfl) sign inner
        (.unaryExpr kind) ?_ ?_ rfl).wrap .expr rfl (.expr rfl)
      · exact ⟨.inl rfl, .inr ⟨_, List.mem_cons_self, .inr rfl⟩⟩
      · refine ⟨nofun, ?_⟩
        intro _ last found
        cases found
        exact binds
    · intro least c member same
      rw [Node.wrap_children, List.mem_singleton] at member
      subst member
      cases same
    · intro op found c member last isLast present
      rw [Node.wrap_children, List.mem_singleton] at member
      subst member
      refine ⟨nofun, fun _ => ?_⟩
      cases isLast
      exact BinaryOp.precedence_lt_pow_iff.mp (next op present found)
  · rename_i signs
    obtain ⟨read, simple⟩ := operand_reads sound s
    have simple := simple.resolve_right (by
      rintro ⟨-, nothing | plus | minus⟩
      · rw [starts] at nothing
        cases nothing
      · simp [plus] at signs
      · simp [minus] at signs)
    exact ⟨read, simple.kind, simple.bindsAtLeast, fun op _ => simple.closedBefore op⟩

theorem Stream.valid_of_binaryOp? {s : Stream} {op : BinaryOp} (found : s.binaryOp? = some op)
    (c : Char) : s.kind ≠ .invalid c := by
  intro same
  simp only [Stream.binaryOp?, same, reduceCtorEq] at found

theorem operator?_binary {lhs symbol : Node} {op : BinaryOp} (more : List Node) (a b : Nat)
    (isExpr : lhs.kind = .expr) (isOperator : symbol.kind = .operator op) :
    (Node.branch .binaryExpr a b (lhs :: symbol :: more)).operator? = some op := by
  simp only [Node.operator?, Node.branch_children, List.findSome?_cons, isExpr, isOperator]

/-- One turn of the loop over binary operators: the operator, its modifiers and its right operand
are read, and the whole is again a left operand. -/
theorem binary_reads (sound : SubReads sub depth) {s middle : Stream} {lhs : Node} {op : BinaryOp}
    (operand : Reads s [(depth + 1, lhs)] middle) (isExpr : lhs.kind = .expr)
    (found : middle.binaryOp? = some op) (closed : lhs.ClosedBefore op) :
    let result := binary sub op lhs middle
    Reads s [(depth + 1, result.1)] result.2 ∧ result.2.rest.length < middle.rest.length ∧
      (∀ least, least ≤ op.precedence → result.1.BindsAtLeast least) ∧
      ∀ next, result.2.binaryOp? = some next → result.1.ClosedBefore next := by
  have symbol := Reads.token (depth + 1) (.operator op) rfl (Stream.kind_of_binaryOp? found)
    (Stream.valid_of_binaryOp? found)
  obtain ⟨modified, optional⟩ := binModifiers_reads (depth + 1) middle.advance
  obtain ⟨t, rest, next⟩ := Stream.rest_of_kind (Stream.kind_of_binaryOp? found)
  have shorter : middle.advance.rest.length < middle.rest.length := by
    rw [Stream.rest_advance, next]
    simp
  let modifiers := binModifiers middle.advance
  let rhs := expectExpr sub op.rightPrecedence modifiers.2
  let inner := Node.branch .binaryExpr lhs.start lhs.start
    (lhs :: (middle.leaf (.operator op)).1 :: modifiers.1 ++ [rhs.1])
  have right := expectExpr_reads sound op.rightPrecedence modifiers.2
  have named : inner.operator? = some op := operator?_binary _ _ _ isExpr rfl
  have last : inner.last? = some rhs.1 := List.getLast?_concat
  intro result
  change Reads s [(depth + 1, .wrap .expr inner)] rhs.2 ∧ rhs.2.rest.length < _ ∧
    (∀ least, _ → (Node.wrap .expr inner).BindsAtLeast least) ∧
    ∀ next, rhs.2.binaryOp? = some next → (Node.wrap .expr inner).ClosedBefore next
  refine ⟨?_, ?_, ?_, ?_⟩
  · refine (Reads.nestLast .binaryExpr (lhs :: (middle.leaf (.operator op)).1 :: modifiers.1)
      (fun _ _ => rfl) ((operand.append symbol).append modified) right ?_ ?_ ?_ rfl).wrap .expr rfl
      (.expr rfl)
    · have rule := Rule.binaryExpr op optional
        (expectExpr_kind sound op.rightPrecedence modifiers.2)
      simpa [isExpr] using rule
    · exact ⟨.inr ⟨lhs, by simp, rfl⟩, .inr ⟨lhs, by simp, .inl rfl⟩⟩
    · constructor
      · intro _ left right' own isFirst isLast isOwn
        cases isFirst
        cases last.symm.trans isLast
        cases named.symm.trans isOwn
        exact ⟨closed, expectExpr_binds sound op.rightPrecedence modifiers.2⟩
      · nofun
  · exact Nat.lt_of_le_of_lt (modified.append right).rest_length_le shorter
  · intro least tight c member _ own isOwn
    rw [Node.wrap_children, List.mem_singleton] at member
    subst member
    cases named.symm.trans isOwn
    exact tight
  · intro next found c member operand isLast present
    rw [Node.wrap_children, List.mem_singleton] at member
    subst member
    refine ⟨?_, nofun⟩
    intro _ own isOwn
    cases named.symm.trans isOwn
    cases last.symm.trans isLast
    exact BinaryOp.lt_rightPrecedence_iff.mp
      (expectExpr_next sound op.rightPrecedence modifiers.2 next present found)

/-- As many turns as there are tokens read all operators that bind tight enough. -/
theorem binaries_reads (sound : SubReads sub depth) (least steps : Nat) {s middle : Stream}
    {lhs : Node} (enough : middle.rest.length ≤ steps)
    (operand : Reads s [(depth + 1, lhs)] middle) (isExpr : lhs.kind = .expr)
    (binds : lhs.BindsAtLeast least)
    (closed : ∀ op, middle.binaryOp? = some op → lhs.ClosedBefore op) :
    let result := binaries sub least steps lhs middle
    Reads s [(depth + 1, result.1)] result.2 ∧ result.1.kind = .expr ∧
      result.1.BindsAtLeast least ∧
      ∀ op, result.2.binaryOp? = some op → op.precedence < least := by
  induction steps generalizing lhs middle with
  | zero =>
    have finished : middle.rest = [] := List.length_eq_zero_iff.mp (by omega)
    refine ⟨operand, isExpr, binds, ?_⟩
    intro op found
    exact absurd (Stream.kind_of_nil finished) (Stream.kind_of_binaryOp? found)
  | succ steps ih =>
    rw [binaries]
    split
    · rename_i none
      refine ⟨operand, isExpr, binds, ?_⟩
      intro op found
      rw [none] at found
      cases found
    · rename_i op found
      split
      · rename_i loose
        refine ⟨operand, isExpr, binds, ?_⟩
        intro other same
        cases found.symm.trans same
        exact loose
      · rename_i tight
        obtain ⟨read, shorter, bound, next⟩ :=
          binary_reads sound operand isExpr found (closed op found)
        have fewer : (binary sub op lhs middle).2.rest.length ≤ steps := by omega
        exact ih fewer read rfl (bound least (by omega)) next

theorem expr_succ_reads (sound : SubReads (expr depth) depth) (least : Nat) {s : Stream}
    (starts : s.startsExpr = true) :
    let result := expr (depth + 1) least s
    Reads s [(depth + 1, result.1)] result.2 ∧ result.1.kind = .expr ∧
      result.1.BindsAtLeast least ∧
      ∀ op, result.2.binaryOp? = some op → op.precedence < least := by
  obtain ⟨read, isExpr, binds, closed⟩ := unary_reads sound starts
  exact binaries_reads sound least _ (Nat.le_refl _) read isExpr (binds least) closed

/-- Expressions read as the rules allow, however deep they may still nest. -/
theorem expr_subReads (depth : Nat) : SubReads (expr depth) depth := by
  induction depth with
  | zero =>
    refine ⟨fun _ _ starts => .swallow starts, fun _ _ _ => .inr ⟨rfl, rfl, rfl⟩, ?_, ?_⟩
    · intro _ _ _ c member
      cases member
    · intro _ _ _ _ found
      exact absurd (Stream.kind_of_nil rfl) (Stream.kind_of_binaryOp? found)
  | succ depth sound =>
    refine ⟨?_, ?_, ?_, ?_⟩
    · intro least s starts
      exact (expr_succ_reads sound least starts).1
    · intro least s starts
      exact .inl ⟨Nat.succ_pos depth, (expr_succ_reads sound least starts).2.1⟩
    · intro least s starts
      exact (expr_succ_reads sound least starts).2.2.1
    · intro least s op starts
      exact (expr_succ_reads sound least starts).2.2.2 op

theorem strays_endsNothing (s : Stream) : (s.strays endsNothing).2.rest = [] := by
  simp only [Stream.strays, endsNothing, Bool.not_false]
  induction s.rest with
  | nil => rfl
  | cons t rest ih => rwa [List.dropWhile_cons_of_pos rfl]

/-- Errors may be taken to stand at any level, the first of them at another than the rest. -/
theorem strays_reads_first (s : Stream) (stops : Token.Kind → Bool) (first depth : Nat) :
    ∃ forest, Reads s forest (s.strays stops).2 ∧ forest.map Prod.snd = (s.strays stops).1 ∧
      ∀ i x, forest[i]? = some x → x.1 = if i = 0 then first else depth := by
  cases found : s.rest with
  | nil =>
    rw [strays_nil stops found]
    exact ⟨[], .done, rfl, by simp⟩
  | cons t rest =>
    cases going : stops t.kind with
    | true =>
      rw [strays_stop stops found going]
      exact ⟨[], .done, rfl, by simp⟩
    | false =>
      rw [strays_cons stops found going]
      refine ⟨_, (Reads.stray first (by simp [found])).append (strays_reads depth s.stray.2 stops),
        ?_, ?_⟩
      · simp [Function.comp_def]
      · intro i x member
        cases i with
        | zero =>
          cases member
          rfl
        | succ i =>
          simp only [List.cons_append, List.nil_append, List.getElem?_cons_succ,
            List.getElem?_map, Option.map_eq_some_iff] at member
          obtain ⟨n, -, rfl⟩ := member
          rfl

/-- The root holds all that was read. An expression is its first child, one level deep, and
nothing but errors follows. -/
theorem query_reads (s : Stream) (size : Nat) :
    ∃ forest after, Reads s forest after ∧ after.rest = [] ∧
      query s size = .branch .query 0 size (forest.map Prod.snd) ∧
      (∀ i x, forest[i]? = some x →
        x.1 + (NodeKind.query.nestsAt i forest.length).toNat = maxDepth + 1) ∧
      Rule .query (forest.map fun x => x.2.kind) := by
  have errors : ∀ s : Stream, ∀ k ∈ (s.strays endsNothing).1.map Node.kind, k = .error := by
    intro s k member
    obtain ⟨n, among, rfl⟩ := List.mem_map.mp member
    exact strays_kind s endsNothing n among
  unfold query topExpr
  by_cases starts : s.startsExpr = true
  · obtain ⟨read, isExpr, -, -⟩ := expr_succ_reads (expr_subReads 127) 0 starts
    have strays := strays_reads (maxDepth + 1) (expr maxDepth 0 s).2 endsNothing
    simp only [starts, ↓reduceIte]
    refine ⟨_, _, read.append strays, strays_endsNothing _, ?_, ?_, ?_⟩
    · simp [Function.comp_def, maxDepth]
    · intro i x found
      cases i with
      | zero =>
        cases found
        rfl
      | succ i =>
        simp only [List.cons_append, List.nil_append, List.getElem?_cons_succ,
          List.getElem?_map, Option.map_eq_some_iff] at found
        obtain ⟨n, -, rfl⟩ := found
        rfl
    · have rule := Rule.queryExpr (errors (expr maxDepth 0 s).2)
      rw [← isExpr] at rule
      simpa [Function.comp_def] using rule
  · obtain ⟨forest, read, nodes, levels⟩ := strays_reads_first s endsNothing maxDepth (maxDepth + 1)
    simp only [starts, Bool.false_eq_true, ↓reduceIte]
    refine ⟨forest, _, read, strays_endsNothing s, ?_, ?_, ?_⟩
    · rw [nodes]
      rfl
    · intro i x found
      rw [levels i x found]
      cases i <;> rfl
    · have rule := Rule.query (errors s)
      rwa [← nodes, List.map_map] at rule

end Parser

end MetricQuery
