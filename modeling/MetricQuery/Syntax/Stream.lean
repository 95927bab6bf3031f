import MetricQuery.Syntax.Tree
import MetricQuery.Token.Basic

/-!
Token streams: what is left to read, and how the next token becomes a leaf. Reading past the last
token gives the end of input, again and again.
-/

set_option autoImplicit false

namespace MetricQuery

/-- The tokens still to be read. -/
structure Stream where
  /-- What is left, the end of input apart. -/
  rest : List Token
  /-- Where the input ends. -/
  finish : Nat
  /-- Where the last token that was read ends; 0 before the first. -/
  last : Nat
  deriving DecidableEq, Repr

namespace Stream

/-- A stream of the tokens before the end of input, which is at `size` when none is among them. -/
def ofTokens (tokens : List Token) (size : Nat) : Stream where
  rest := tokens.takeWhile (·.kind != .endOfInput)
  finish := ((tokens.find? (·.kind == .endOfInput)).map Token.start).getD size
  last := 0

/-- The next token. -/
def current (s : Stream) : Token :=
  match s.rest with
  | [] => .finish s.finish
  | t :: _ => t

/-- The kind of the next token. -/
def kind (s : Stream) : Token.Kind := s.current.kind

/-- The token after the next. -/
def second (s : Stream) : Token :=
  match s.rest with
  | _ :: t :: _ => t
  | _ => .finish s.finish

/-- The stream after the next token; nothing follows the end of input. -/
def advance (s : Stream) : Stream :=
  match s.rest with
  | [] => s
  | t :: rest => { s with rest := rest, last := t.stop }

/-- Reads the next token if it is of a kind. -/
def skip (s : Stream) (kind : Token.Kind) : Stream := if s.kind = kind then s.advance else s

/-- Whether the next token is a keyword. -/
def atKeyword (s : Stream) (keyword : String) : Bool := s.current.isKeyword keyword

/-- Reads the next token as a leaf. -/
def leaf (s : Stream) (kind : NodeKind) : Node × Stream :=
  (.leaf kind s.current.start s.current.stop, s.advance)

/-- The leaf of something that is missing before the next token. -/
def missing (s : Stream) : Node := .leaf .error s.current.start s.current.start

/-- The error node of a token; an identifier stays visible below it. -/
def strayNode (t : Token) : Node :=
  match t.ident? with
  | some _ => .wrap .error (.leaf .identifier t.start t.stop)
  | none => .leaf .error t.start t.stop

/-- Reads the next token as an error node. -/
def stray (s : Stream) : Node × Stream := (strayNode s.current, s.advance)

/-- Reads tokens as error nodes up to the first whose kind `stops`. -/
def strays (s : Stream) (stops : Token.Kind → Bool) : List Node × Stream :=
  let bad := s.rest.takeWhile fun t => !stops t.kind
  (bad.map strayNode,
    { s with
      rest := s.rest.dropWhile fun t => !stops t.kind
      last := (bad.getLast?.map Token.stop).getD s.last })

/-- Reads everything left as one error leaf. -/
def swallow (s : Stream) : Node × Stream :=
  let last := (s.rest.getLast?.map Token.stop).getD s.last
  (.leaf .error s.current.start last, { s with rest := [], last := last })

/-- Whether the next token can start an expression. -/
def startsExpr (s : Stream) : Bool :=
  match s.kind with
  | .number _ | .string _ _ | .ident _ | .leftParen | .leftBrace | .plus | .minus => true
  | _ => false

/-- The binary operator that the next token is. -/
def binaryOp? (s : Stream) : Option BinaryOp :=
  match s.kind with
  | .caret => some .pow
  | .star => some .mul
  | .slash => some .div
  | .percent => some .mod
  | .plus => some .add
  | .minus => some .sub
  | .eqEq => some .eql
  | .notEq => some .neq
  | .ltEq => some .lte
  | .lt => some .lss
  | .gtEq => some .gte
  | .gt => some .gtr
  | .ident _ =>
    if s.atKeyword "and" then some .and
    else if s.atKeyword "or" then some .or
    else if s.atKeyword "unless" then some .unless
    else none
  | _ => none

/-- The operator of a label matcher that the next token is. -/
def matchOp? (s : Stream) : Option MatchOp :=
  match s.kind with
  | .eq => some .eqlSingle
  | .notEq => some .neq
  | .eqTilde => some .eqlRegex
  | .notTilde => some .neqRegex
  | _ => none

/-- Whether the next token starts a grouping of an aggregation. -/
def atGrouping (s : Stream) : Bool := s.atKeyword "by" || s.atKeyword "without"

/-- Whether the next token is an identifier that cannot continue an expression. -/
def atStrayIdent (s : Stream) : Bool :=
  s.current.ident?.isSome && s.binaryOp?.isNone && !s.atKeyword "offset" && !s.atGrouping

@[simp] theorem kind_cons (t : Token) (rest : List Token) (finish last : Nat) :
    (Stream.mk (t :: rest) finish last).kind = t.kind := rfl

@[simp] theorem kind_nil (finish last : Nat) :
    (Stream.mk [] finish last).kind = .endOfInput := rfl

@[simp] theorem rest_advance (s : Stream) : s.advance.rest = s.rest.tail := by
  unfold advance
  split <;> simp_all

end Stream

end MetricQuery
