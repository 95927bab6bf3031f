import MetricQuery.Proofs.Coverage
import MetricQuery.Proofs.ParserLoops

/-!
The parser with its counter. Here the stream and the number of expressions being read are a state,
the parser of expressions counts up before it reads and down after, and whatever is read is noted.
Nothing but the counter keeps expressions from nesting too deep, and a loop or a nesting that went
on longer than its bound would give nothing at all. It gives the tree of the parser, and of the
events on the way this much is true: every expression is asked for where one starts, takes a token
or more and leaves the counter as it was; and behind an expression that was nested too deep nothing
is left to read.
-/

set_option autoImplicit false

namespace MetricQuery

/-- How far the parser has come: what is left to read, and how many expressions are being read. -/
structure Standing where
  stream : Stream
  depth : Nat

/-- Something that the parser did: tokens that a production read by itself, or a whole call of the
parser of expressions, noted when it returns. -/
inductive Event where
  | read (before after : Stream)
  | call (before after : Standing) (node : Node)

/-- The parser in the middle of its work. -/
structure Machine extends Standing where
  events : List Event

/-- Work on the state of the parser; nothing when a bound was too small. -/
abbrev Counted := StateT Machine Option

namespace Counted

open MetricQuery.Parser (Part maxDepth endsArgument closesParen endsNothing listChildren)

variable {α β : Type}

/-- Looks at the stream. -/
def look (f : Stream → α) : Counted α := do
  return f (← get).stream

/-- Reads from the stream, and notes it. -/
def read (f : Stream → α × Stream) : Counted α := do
  let m ← get
  let (a, s) := f m.stream
  set { m with stream := s, events := m.events ++ [Event.read m.stream s] }
  return a

def advance : Counted Unit := read fun s => ((), s.advance)

def skip (kind : Token.Kind) : Counted Unit := read fun s => ((), s.skip kind)

def leaf (kind : NodeKind) : Counted Node := read (·.leaf kind)

/-- Runs the parser of expressions: gives up where they nest too deep, and reads on with `body`
elsewhere. -/
def call (body : Counted Node) : Counted Node := do
  let before ← get
  set { before with depth := before.depth + 1 }
  let node ← (if before.depth + 1 > maxDepth then read Stream.swallow else body : Counted Node)
  modify fun m => { m with depth := m.depth - 1 }
  modify fun m => { m with events := m.events ++ [Event.call before.toStanding m.toStanding node] }
  return node

/-- The parser of nested expressions, given the least binding power of binary operators. -/
abbrev Sub := Nat → Counted Node

def expectExpr (sub : Sub) (least : Nat) : Counted Node := do
  if ← look Stream.startsExpr then sub least else look Stream.missing

def argument (sub : Sub) : Counted Part := do
  if ← look Stream.startsExpr then
    return .item (← sub 0)
  else
    return .stray (← look Stream.missing)

def callParts (sub : Sub) : Nat → Counted (List Part)
  | 0 => failure
  | steps + 1 => do
    let argument ← argument sub
    let strays ← read (·.strays endsArgument)
    let parts := argument :: strays.map .stray
    match ← look Stream.kind with
    | .comma =>
      advance
      return parts ++ (← callParts sub steps)
    | .rightParen =>
      advance
      return parts
    | _ => return parts

def arguments (sub : Sub) : Counted (List Part) := do
  if (← look Stream.kind) = .rightParen then
    advance
    return []
  else callParts sub ((← look (·.rest.length)) + 1)

def callBody (sub : Sub) : Counted Node := do
  let start ← look (·.current.start)
  advance
  let parts ← arguments sub
  return .branch .functionCallBody start (← look Stream.last) (listChildren .functionCallArgs parts)

def functionCall (sub : Sub) (name : String) : Counted Node := do
  let kind : NodeKind :=
    match QueryFunction.ofName? name with
    | some f => .function f
    | none => .identifier
  let ident ← leaf kind
  let body ← callBody sub
  return .wrap .expr (.branch .functionCall ident.start ident.stop
    [.wrap .functionIdentifier ident, body])

def expectCallBody (sub : Sub) : Counted Node := do
  if (← look Stream.kind) = .leftParen then callBody sub else look Stream.missing

def aggregate (sub : Sub) (op : Aggregator) : Counted Node := do
  let symbol ← leaf (.aggregator op)
  let early ← look Stream.atGrouping
  let before ← read Parser.earlyGrouping
  let body ← expectCallBody sub
  let after ← read (Parser.lateGrouping early)
  return .wrap .expr (.branch .aggregateExpr symbol.start symbol.stop
    (.wrap .aggregateOp symbol :: before ++ body :: after))

def paren (sub : Sub) : Counted Node := do
  let start ← look (·.current.start)
  advance
  let inner ← expectExpr sub 0
  let strays ← read (·.strays closesParen)
  skip .rightParen
  return .wrap .expr (.branch .parenExpr start (← look Stream.last) (inner :: strays))

def identExpr (sub : Sub) (name : String) : Counted Node := do
  let next ← look Stream.second
  let aggregation? : Option Aggregator :=
    if next.kind = .leftParen || next.isKeyword "by" || next.isKeyword "without" then
      Aggregator.ofName? name
    else none
  match aggregation? with
  | some op => aggregate sub op
  | none =>
    if next.kind = .leftParen then functionCall sub name
    else if ← look fun s => s.atKeyword "inf" || s.atKeyword "nan" then
      return .wrap .expr (← leaf .numberLiteral)
    else read Parser.vectorSelector

def primary (sub : Sub) : Counted Node := do
  match ← look Stream.kind with
  | .number _ => return .wrap .expr (← leaf .numberLiteral)
  | .string _ _ => return .wrap .expr (← leaf .stringLiteral)
  | .leftParen => paren sub
  | .leftBrace => return .wrap .expr (.wrap .vectorSelector (← read Parser.labelMatchers))
  | .ident name => identExpr sub name
  | _ => look Stream.missing

def operand (sub : Sub) : Counted Node := do
  let e ← primary sub
  if e.kind = .error then
    return e
  else read fun s => Parser.postfixes s.rest.length e s

def unary (sub : Sub) : Counted Node := do
  let kind ← look Stream.kind
  if kind = .plus || kind = .minus then
    let sign ← leaf .unaryOp
    let inner ← expectExpr sub BinaryOp.pow.precedence
    return .wrap .expr (.branch .unaryExpr sign.start sign.stop [sign, inner])
  else operand sub

def binary (sub : Sub) (op : BinaryOp) (lhs : Node) : Counted Node := do
  let symbol ← leaf (.operator op)
  let modifiers ← read Parser.binModifiers
  let rhs ← expectExpr sub op.rightPrecedence
  return .wrap .expr
    (.branch .binaryExpr lhs.start lhs.start (lhs :: symbol :: modifiers ++ [rhs]))

def binaries (sub : Sub) (least : Nat) : Nat → Node → Counted Node
  | 0, _ => failure
  | steps + 1, lhs => do
    match ← look Stream.binaryOp? with
    | none => return lhs
    | some op =>
      if op.precedence < least then
        return lhs
      else binaries sub least steps (← binary sub op lhs)

/-- The parser of expressions, for calls nested less than `levels` deep. -/
def expr : Nat → Sub
  | 0, _ => failure
  | levels + 1, least => call do
    let lhs ← unary (expr levels)
    binaries (expr levels) least ((← look (·.rest.length)) + 1) lhs

def topExpr (levels : Nat) : Counted (List Node) := do
  if ← look Stream.startsExpr then
    return [← expr levels 0]
  else return []

def query (levels size : Nat) : Counted Node := do
  let exprs ← topExpr levels
  let strays ← read (·.strays endsNothing)
  return .branch .query 0 size (exprs ++ strays)

end Counted

/-- The events between two streams, where `depth` expressions are being read. An expression is
read where one starts; it is read to its end, or gives up on all that is left. -/
inductive Runs : Nat → Stream → List Event → Stream → Prop
  | done {depth : Nat} {s : Stream} : Runs depth s [] s
  | append {depth : Nat} {s middle after : Stream} {front back : List Event}
      (first : Runs depth s front middle) (next : Runs depth middle back after) :
      Runs depth s (front ++ back) after
  | read {depth : Nat} {s after : Stream} (shorter : after.rest <:+ s.rest) :
      Runs depth s [.read s after] after
  | call {depth : Nat} {s after : Stream} {inner : List Event} (node : Node)
      (starts : s.startsExpr = true) (room : depth < Parser.maxDepth)
      (consumes : after.rest.length < s.rest.length) (reads : Runs (depth + 1) s inner after) :
      Runs depth s (inner ++ [.call ⟨s, depth⟩ ⟨after, depth⟩ node]) after
  | giveUp {s : Stream} (starts : s.startsExpr = true) :
      Runs Parser.maxDepth s
        [.read s s.swallow.2, .call ⟨s, Parser.maxDepth⟩ ⟨s.swallow.2, Parser.maxDepth⟩ s.swallow.1]
        s.swallow.2

namespace Counted

open MetricQuery.Parser (Part maxDepth endsArgument closesParen endsNothing listChildren SubReads)

variable {α β : Type} {depth level : Nat} {s : Stream}

/-- Work does between two streams what a production does, noting what happens, and leaves the
counter as it was. -/
def Does (depth : Nat) (s : Stream) (x : Counted α) (result : α × Stream) : Prop :=
  ∃ events, Runs depth s events result.2 ∧
    ∀ earlier, x ⟨⟨s, depth⟩, earlier⟩ = some (result.1, ⟨⟨result.2, depth⟩, earlier ++ events⟩)

theorem Does.pure (a : α) : Does depth s (pure a) (a, s) :=
  ⟨[], .done, fun earlier => by rw [List.append_nil]; rfl⟩

theorem Does.look (f : Stream → α) : Does depth s (look f) (f s, s) :=
  ⟨[], .done, fun earlier => by rw [List.append_nil]; rfl⟩

theorem Does.bind {x : Counted α} {f : α → Counted β} {middle : α × Stream} {result : β × Stream}
    (first : Does depth s x middle) (next : Does depth middle.2 (f middle.1) result) :
    Does depth s (x >>= f) result := by
  obtain ⟨front, runs, same⟩ := first
  obtain ⟨back, runs', same'⟩ := next
  refine ⟨front ++ back, runs.append runs', fun earlier => ?_⟩
  change (x ⟨⟨s, depth⟩, earlier⟩ >>= fun p => f p.1 p.2) = _
  rw [same]
  change f middle.1 ⟨⟨middle.2, depth⟩, earlier ++ front⟩ = _
  rw [same', List.append_assoc]

theorem Does.suffix {f : Stream → α × Stream} (shorter : (f s).2.rest <:+ s.rest) :
    Does depth s (read f) (f s) :=
  ⟨[.read s (f s).2], .read shorter, fun _ => rfl⟩

theorem Does.read {f : Stream → α × Stream} {forest : List Parser.Grown}
    (reads : Parser.Reads s forest (f s).2) : Does depth s (read f) (f s) := by
  obtain ⟨ts, same, -, -⟩ := reads.consumed
  exact .suffix ⟨ts, same.symm⟩

theorem Does.advance : Does depth s advance ((), s.advance) :=
  .suffix (by rw [Stream.rest_advance]; exact List.tail_suffix _)

theorem Does.skip (kind : Token.Kind) : Does depth s (skip kind) ((), s.skip kind) := by
  refine .suffix ?_
  simp only [Stream.skip]
  split
  · rw [Stream.rest_advance]
    exact List.tail_suffix _
  · exact List.suffix_rfl

theorem Does.leaf (kind : NodeKind) : Does depth s (leaf kind) (s.leaf kind) :=
  .suffix (by simp only [Stream.leaf, Stream.rest_advance]; exact List.tail_suffix _)

/-- Wherever an expression starts, counted work does what a parser of expressions does. -/
def SubDoes (depth : Nat) (sub : Sub) (plain : Parser.Sub) : Prop :=
  ∀ least s, s.startsExpr = true → Does depth s (sub least) (plain least s)

variable {sub : Sub} {plain : Parser.Sub}

theorem expectExpr_does (calls : SubDoes depth sub plain) (least : Nat) :
    Does depth s (expectExpr sub least) (Parser.expectExpr plain least s) := by
  refine .bind (.look _) ?_
  unfold Parser.expectExpr
  cases starts : s.startsExpr with
  | true => exact calls least s starts
  | false => exact .look _

theorem argument_does (calls : SubDoes depth sub plain) :
    Does depth s (argument sub) (Parser.argument plain s) := by
  refine .bind (.look _) ?_
  unfold Parser.argument
  cases starts : s.startsExpr with
  | true => exact .bind (calls 0 s starts) (.pure _)
  | false => exact .bind (.look _) (.pure _)

/-- Arguments are read to the end, where there are steps enough for all of them. -/
theorem callParts_does (calls : SubDoes depth sub plain) (sound : SubReads plain level)
    {steps : Nat} (enough : s.rest.length < steps) :
    Does depth s (callParts sub steps) (Parser.callParts plain steps s) := by
  induction steps generalizing s with
  | zero => exact absurd enough (Nat.not_lt_zero _)
  | succ steps ih =>
    have shorter := (Parser.argument_reads sound s).1.rest_length_le
    refine .bind (argument_does calls) (.bind (.read (Parser.strays_reads 0 _ endsArgument)) ?_)
    refine .bind (.look _) ?_
    rw [Parser.callParts]
    have skipped := (Parser.strays_reads 0 (Parser.argument plain s).2 endsArgument).rest_length_le
    -- Only behind a comma is there another round, and the comma pays for it.
    dsimp only
    generalize (Parser.argument plain s).2.strays endsArgument = after at skipped ⊢
    cases found : after.2.kind
    case comma =>
      have less := Stream.rest_advance_lt (s := after.2) (by rw [found]; simp)
      have enough' : after.2.advance.rest.length < steps := by omega
      exact .bind .advance (.bind (ih enough') (.pure _))
    case rightParen => exact .bind .advance (.pure _)
    all_goals exact .pure _

theorem arguments_does (calls : SubDoes depth sub plain) (sound : SubReads plain level) :
    Does depth s (arguments sub) (Parser.arguments plain s) := by
  refine .bind (.look _) ?_
  unfold Parser.arguments
  split
  · exact .bind .advance (.pure _)
  · exact .bind (.look _) (callParts_does calls sound (Nat.lt_succ_self _))

theorem callBody_does (calls : SubDoes depth sub plain) (sound : SubReads plain level) :
    Does depth s (callBody sub) (Parser.callBody plain s) :=
  .bind (.look _) (.bind .advance (.bind (arguments_does calls sound)
    (.bind (.look _) (.pure _))))

theorem functionCall_does (calls : SubDoes depth sub plain) (sound : SubReads plain level)
    (name : String) : Does depth s (functionCall sub name) (Parser.functionCall plain name s) :=
  .bind (.leaf _) (.bind (callBody_does calls sound) (.pure _))

theorem expectCallBody_does (calls : SubDoes depth sub plain) (sound : SubReads plain level) :
    Does depth s (expectCallBody sub) (Parser.expectCallBody plain s) := by
  refine .bind (.look _) ?_
  unfold Parser.expectCallBody
  split
  · exact callBody_does calls sound
  · exact .look _

theorem aggregate_does (calls : SubDoes depth sub plain) (sound : SubReads plain level)
    (op : Aggregator) : Does depth s (aggregate sub op) (Parser.aggregate plain op s) :=
  .bind (.leaf _) (.bind (.look _) (.bind (.read (Parser.earlyGrouping_reads 0 _))
    (.bind (expectCallBody_does calls sound)
      (.bind (.read (Parser.lateGrouping_reads 0 _ _)) (.pure _)))))

theorem paren_does (calls : SubDoes depth sub plain) :
    Does depth s (paren sub) (Parser.paren plain s) :=
  .bind (.look _) (.bind .advance (.bind (expectExpr_does calls 0)
    (.bind (.read (Parser.strays_reads 0 _ closesParen))
      (.bind (.skip _) (.bind (.look _) (.pure _))))))

theorem identExpr_does (calls : SubDoes depth sub plain) (sound : SubReads plain level)
    {name : String} (found : s.kind = .ident name) :
    Does depth s (identExpr sub name) (Parser.identExpr plain name s) := by
  refine .bind (.look _) ?_
  unfold Parser.identExpr
  dsimp only
  generalize (if s.second.kind = .leftParen || s.second.isKeyword "by" ||
    s.second.isKeyword "without" then Aggregator.ofName? name else none) = aggregation?
  cases aggregation? with
  | some op => exact aggregate_does calls sound op
  | none =>
    dsimp only
    split
    · exact functionCall_does calls sound name
    · refine .bind (.look _) ?_
      dsimp only
      split
      · exact .bind (.leaf _) (.pure _)
      · exact .read (Parser.vectorSelector_reads 0 found)

theorem primary_does (calls : SubDoes depth sub plain) (sound : SubReads plain level) :
    Does depth s (primary sub) (Parser.primary plain s) := by
  refine .bind (.look _) ?_
  unfold Parser.primary
  dsimp only
  cases found : s.kind
  case number => exact .bind (.leaf _) (.pure _)
  case string => exact .bind (.leaf _) (.pure _)
  case leftParen => exact paren_does calls
  case leftBrace => exact .bind (.read (Parser.labelMatchers_reads 0 found)) (.pure _)
  case ident => exact identExpr_does calls sound found
  all_goals exact .look _

theorem operand_does (calls : SubDoes depth sub plain) (sound : SubReads plain level) :
    Does depth s (operand sub) (Parser.operand plain s) := by
  refine .bind (primary_does calls sound) ?_
  unfold Parser.operand
  generalize Parser.primary plain s = first
  obtain ⟨e, after⟩ := first
  dsimp only
  split
  · exact .pure _
  · obtain ⟨forest, reads⟩ := Parser.postfixes_rest after.rest.length e after
    exact .read (f := fun s => Parser.postfixes s.rest.length e s) reads

theorem unary_does (calls : SubDoes depth sub plain) (sound : SubReads plain level) :
    Does depth s (unary sub) (Parser.unary plain s) := by
  refine .bind (.look _) ?_
  unfold Parser.unary
  dsimp only
  split
  · exact .bind (.leaf _) (.bind (expectExpr_does calls _) (.pure _))
  · exact operand_does calls sound

theorem binary_does (calls : SubDoes depth sub plain) (op : BinaryOp) (lhs : Node) :
    Does depth s (binary sub op lhs) (Parser.binary plain op lhs s) :=
  .bind (.leaf _) (.bind (.read (Parser.binModifiers_reads 0 _).1)
    (.bind (expectExpr_does calls _) (.pure _)))

theorem binaries_does (calls : SubDoes depth sub plain) (sound : SubReads plain level)
    (least : Nat) {steps more : Nat} (lhs : Node) (enough : s.rest.length < steps)
    (known : s.rest.length ≤ more) :
    Does depth s (binaries sub least steps lhs) (Parser.binaries plain least more lhs s) := by
  induction steps generalizing s lhs more with
  | zero => exact absurd enough (Nat.not_lt_zero _)
  | succ steps ih =>
    refine .bind (.look _) ?_
    cases found : s.binaryOp? with
    | none =>
      have same : Parser.binaries plain least more lhs s = (lhs, s) := by
        cases more <;> simp only [Parser.binaries, found]
      rw [same]
      exact .pure _
    | some op =>
      have less := Parser.binary_consumes sound op lhs (Stream.kind_of_binaryOp? found)
      obtain ⟨more, rfl⟩ := Nat.exists_eq_add_one_of_ne_zero (n := more) (by omega)
      simp only [Parser.binaries, found]
      split
      · exact .pure _
      · exact .bind (binary_does calls op lhs) (ih _ (by omega) (by omega))

theorem call_eq (body : Counted Node) (earlier : List Event) :
    call body ⟨⟨s, depth⟩, earlier⟩ =
      ((if depth + 1 > maxDepth then read Stream.swallow else body) ⟨⟨s, depth + 1⟩, earlier⟩).bind
        fun (node, m) =>
          some (node, ⟨⟨m.stream, m.depth - 1⟩,
            m.events ++ [.call ⟨s, depth⟩ ⟨m.stream, m.depth - 1⟩ node]⟩) := by
  rfl

/-- A call counts up and down around its body. -/
theorem call_does {body : Counted Node} {result : Node × Stream} (room : depth < maxDepth)
    (starts : s.startsExpr = true) (consumes : result.2.rest.length < s.rest.length)
    (inner : Does (depth + 1) s body result) : Does depth s (call body) result := by
  obtain ⟨events, runs, same⟩ := inner
  refine ⟨_, .call result.1 starts room consumes runs, fun earlier => ?_⟩
  rw [call_eq, if_neg (by omega), same, ← List.append_assoc]
  rfl

theorem giveUp_does (body : Counted Node) (starts : s.startsExpr = true) :
    Does maxDepth s (call body) s.swallow := by
  refine ⟨_, .giveUp starts, fun earlier => ?_⟩
  rw [call_eq, if_pos (Nat.lt_succ_self _)]
  exact congrArg (fun events => some (s.swallow.1, Machine.mk ⟨s.swallow.2, maxDepth⟩ events))
    (List.append_assoc earlier [_] [_])

/-- The counted parser of expressions does what the parser does, as long as its bound lets it: the
counter reaches the deepest level before the bound is used up. -/
theorem expr_does (levels : Nat) {depth : Nat} (reached : depth ≤ maxDepth)
    (enough : maxDepth < levels + depth) :
    SubDoes depth (expr levels) (Parser.expr (maxDepth - depth)) := by
  -- The bound goes down as the counter goes up; at its end the counter has stopped the calls.
  induction levels generalizing depth with
  | zero => omega
  | succ levels ih =>
    intro least s starts
    by_cases deepest : depth = maxDepth
    · subst deepest
      rw [Nat.sub_self]
      exact giveUp_does _ starts
    · have room : depth < maxDepth := by omega
      have sound := Parser.expr_subReads (maxDepth - (depth + 1))
      have calls : SubDoes (depth + 1) (expr levels) (Parser.expr (maxDepth - (depth + 1))) :=
        ih (by omega) (by omega)
      have below : maxDepth - depth = maxDepth - (depth + 1) + 1 := by omega
      rw [below]
      refine call_does room starts ?_ ?_
      · exact Parser.expr_consumes _ least starts
      · exact .bind (unary_does calls sound) (.bind (.look _)
          (binaries_does calls sound least _ (Nat.lt_succ_self _) (Nat.le_refl _)))

theorem topExpr_does :
    Does 0 s (topExpr (maxDepth + 1)) (Parser.topExpr s) := by
  refine .bind (.look _) ?_
  unfold Parser.topExpr
  cases starts : s.startsExpr with
  | true => exact .bind (expr_does _ (Nat.zero_le _) (Nat.lt_succ_self _) 0 s starts) (.pure _)
  | false => exact .pure _

theorem query_does (s : Stream) (size : Nat) :
    ∃ after, after.rest = [] ∧
      Does 0 s (query (maxDepth + 1) size) (Parser.query s size, after) :=
  ⟨_, Parser.strays_endsNothing _, .bind topExpr_does
    (.bind (.read (Parser.strays_reads 0 _ endsNothing)) (.pure _))⟩

end Counted

/-- What is true of a call of the parser of expressions. It is made where an expression starts,
reads a token or more and leaves the counter as it found it; the 129th, inside 128 others, gives one
error leaf over all that is left. -/
structure Event.Called (before after : Standing) (node : Node) : Prop where
  starts : before.stream.startsExpr = true
  consumes : after.stream.rest.length < before.stream.rest.length
  restores : after.depth = before.depth
  bounded : before.depth ≤ 128
  givesUp : before.depth = 128 → after.stream.rest = [] ∧
    ∃ first last, before.stream.rest.head? = some first ∧ before.stream.rest.getLast? = some last ∧
      node = .leaf .error first.start last.stop
  covers : before.depth = 128 → Token.Apart before.stream.rest →
    ∀ t ∈ before.stream.rest, node.start ≤ t.start ∧ t.stop ≤ node.stop

/-- An expression was asked for inside 128 others. -/
def Event.GaveUp : Event → Prop
  | .read _ _ => False
  | .call before _ _ => before.depth = 128

/-- There was nothing left to read. Only a call that began earlier may have read something. -/
def Event.Idle : Event → Prop
  | .read before after => before.rest = [] ∧ after.rest = []
  | .call _ after _ => after.stream.rest = []

theorem called_swallow {s : Stream} (starts : s.startsExpr = true) :
    Event.Called ⟨s, Parser.maxDepth⟩ ⟨s.swallow.2, Parser.maxDepth⟩ s.swallow.1 := by
  obtain ⟨t, rest, next⟩ := Stream.rest_of_kind (Stream.kind_of_startsExpr starts)
  obtain ⟨last, tail⟩ := Option.isSome_iff_exists.mp
    (List.getLast?_isSome.mpr (List.cons_ne_nil t rest))
  have head : s.rest.head? = some t := by rw [next]; rfl
  rw [← next] at tail
  have leaf : s.swallow.1 = .leaf .error t.start last.stop := by
    simp only [Stream.swallow, Stream.current_cons next, tail, Option.map_some, Option.getD_some]
  have nonempty : 0 < s.rest.length := by
    rw [next]
    exact Nat.succ_pos _
  refine ⟨starts, nonempty, rfl, Nat.le_refl _, fun _ => ⟨rfl, t, last, head, tail, leaf⟩, ?_⟩
  intro _ apart u member
  rw [leaf, Node.leaf_start, Node.leaf_stop]
  have bounds := apart.bounds head tail u member
  exact ⟨bounds.1, Nat.le_trans bounds.2 (Nat.le_max_left _ _)⟩

namespace Runs

variable {depth : Nat} {s after : Stream} {events : List Event}

theorem suffix (runs : Runs depth s events after) : after.rest <:+ s.rest := by
  induction runs with
  | done => exact List.suffix_rfl
  | append _ _ front back => exact back.trans front
  | read shorter => exact shorter
  | call _ _ _ _ _ inner => exact inner
  | giveUp => exact List.nil_suffix

theorem called (runs : Runs depth s events after) {b a : Standing} {node : Node}
    (member : .call b a node ∈ events) : Event.Called b a node := by
  induction runs with
  | done => cases member
  | append _ _ front back => exact (List.mem_append.mp member).elim front back
  | read => simp at member
  | call node starts room consumes _ inner =>
    rcases List.mem_append.mp member with early | same
    · exact inner early
    · cases List.mem_singleton.mp same
      exact ⟨starts, consumes, rfl, Nat.le_of_lt room, fun full => absurd full (Nat.ne_of_lt room),
        fun full => absurd full (Nat.ne_of_lt room)⟩
  | giveUp starts =>
    simp only [List.mem_cons, reduceCtorEq, false_or, List.not_mem_nil, or_false] at member
    cases member
    exact called_swallow starts

/-- Where nothing is left, nothing happens. -/
theorem idle (runs : Runs depth s events after) (finished : s.rest = []) :
    ∀ e ∈ events, e.Idle := by
  induction runs with
  | done => simp
  | append first _ front back =>
    have later := first.suffix
    rw [finished, List.suffix_nil] at later
    exact List.forall_mem_append.mpr ⟨front finished, back later⟩
  | read shorter =>
    rw [finished, List.suffix_nil] at shorter
    simp [Event.Idle, finished, shorter]
  | call node starts | giveUp starts =>
    exact absurd (Stream.kind_of_nil finished) (Stream.kind_of_startsExpr starts)

/-- Behind an expression that was nested too deep nothing is left, so nothing more is read. -/
theorem gaveUp (runs : Runs depth s events after) :
    (events.Pairwise fun e later => e.GaveUp → later.Idle) ∧
      ∀ e ∈ events, e.GaveUp → after.rest = [] := by
  induction runs with
  | done => exact ⟨.nil, by simp⟩
  | @append depth s middle after front back first next ofFront ofBack =>
    refine ⟨List.pairwise_append.mpr ⟨ofFront.1, ofBack.1, fun e early later late up => ?_⟩, ?_⟩
    · exact next.idle (ofFront.2 e early up) later late
    · refine List.forall_mem_append.mpr ⟨fun e early up => ?_, ofBack.2⟩
      have shorter := next.suffix
      rwa [ofFront.2 e early up, List.suffix_nil] at shorter
  | read => exact ⟨List.pairwise_singleton _ _, by simp [Event.GaveUp]⟩
  | call node starts room consumes _ inner =>
    refine ⟨List.pairwise_append.mpr ⟨inner.1, List.pairwise_singleton _ _, ?_⟩, ?_⟩
    · intro e early later same up
      rw [List.mem_singleton.mp same]
      exact inner.2 e early up
    · refine List.forall_mem_append.mpr ⟨inner.2, fun e same up => ?_⟩
      rw [List.mem_singleton.mp same] at up
      exact absurd up (Nat.ne_of_lt room)
  | giveUp starts => exact ⟨by simp [Event.GaveUp], fun _ _ _ => rfl⟩

end Runs

end MetricQuery
