import MetricQuery.Text.Basic

/-!
Tokens of the query language: what kind each is and which bytes of the source it covers.
Keywords are not told apart here; an identifier becomes one only where the grammar asks.
-/

set_option autoImplicit false

namespace MetricQuery

/-- A byte range, by its offset and length. -/
structure Span where
  offset : Nat
  length : Nat
  deriving DecidableEq, Repr

namespace Span

/-- The first byte after the range. -/
def stop (s : Span) : Nat := s.offset + s.length

/-- From the start of one range to the end of another, empty when that lies before the start. -/
def upTo (a b : Span) : Span := ⟨a.offset, b.stop - a.offset⟩

end Span

namespace Token

/-- What a token is, with its text where the kind leaves it open. -/
inductive Kind where
  | number (text : String)
  | duration (text : String)
  /-- A quoted string with its quotes; `terminated` tells whether the closing one was found. -/
  | string (raw : String) (terminated : Bool)
  | ident (name : String)
  | leftBrace
  | rightBrace
  | leftBracket
  | rightBracket
  | leftParen
  | rightParen
  | comma
  | colon
  | plus
  | minus
  | star
  | slash
  | percent
  | caret
  | eqEq
  | notEq
  | ltEq
  | lt
  | gtEq
  | gt
  | eq
  | eqTilde
  | notTilde
  /-- A character that starts no token. -/
  | invalid (char : Char)
  | endOfInput
  deriving DecidableEq, Repr

/-- The text of a token as it stands in the source; the end of input is described in words. -/
def Kind.text : Kind → String
  | .number text => text
  | .duration text => text
  | .string raw _ => raw
  | .ident name => name
  | .leftBrace => "\x7b"
  | .rightBrace => "\x7d"
  | .leftBracket => "["
  | .rightBracket => "]"
  | .leftParen => "("
  | .rightParen => ")"
  | .comma => ","
  | .colon => ":"
  | .plus => "+"
  | .minus => "-"
  | .star => "*"
  | .slash => "/"
  | .percent => "%"
  | .caret => "^"
  | .eqEq => "=="
  | .notEq => "!="
  | .ltEq => "<="
  | .lt => "<"
  | .gtEq => ">="
  | .gt => ">"
  | .eq => "="
  | .eqTilde => "=~"
  | .notTilde => "!~"
  | .invalid char => String.ofList [char]
  | .endOfInput => "end of input"

end Token

/-- A token and the bytes it covers. -/
structure Token where
  kind : Token.Kind
  span : Span
  deriving DecidableEq, Repr

namespace Token

/-- The first byte of the token. -/
def start (t : Token) : Nat := t.span.offset

/-- The first byte after the token. -/
def stop (t : Token) : Nat := t.span.stop

/-- The end of input, an empty token at offset `offset`. -/
def finish (offset : Nat) : Token := ⟨.endOfInput, ⟨offset, 0⟩⟩

/-- The name of an identifier. -/
def ident? (t : Token) : Option String :=
  match t.kind with
  | .ident name => some name
  | _ => none

/-- Whether the token is the identifier `keyword`, in any case of its ASCII letters. -/
def isKeyword (t : Token) (keyword : String) : Bool :=
  match t.kind with
  | .ident name => Text.sameLetters name.toList keyword.toList
  | _ => false

@[simp] theorem start_finish (offset : Nat) : (finish offset).start = offset := rfl

@[simp] theorem stop_finish (offset : Nat) : (finish offset).stop = offset := rfl

end Token

end MetricQuery
