import MetricQuery.Text.Blank
import MetricQuery.Text.Quoted
import MetricQuery.Token.Basic

/-!
From text to tokens. Every function here splits a text into a consumed part and a rest, so that
the parts always append to what was given. Scanning never fails: a character that starts no token
is an `invalid` token of its own.
-/

set_option autoImplicit false

namespace MetricQuery.Token

/-- The units of a duration, longest first where one begins another. -/
def durationUnits : List Text :=
  [['m', 's'], ['s'], ['m'], ['h'], ['d'], ['w'], ['y']]

/-- Whether a character starts an identifier. -/
def isNameStart (c : Char) : Bool := c.isAlpha || c == '_'

/-- Whether a character continues an identifier; metric names may contain colons. -/
def isNameRest (c : Char) : Bool := c.isAlphanum || c == '_' || c == ':'

/-- Whether a character is a hexadecimal digit. -/
def isHexDigit (c : Char) : Bool :=
  c.isDigit || ('a' ≤ c && c ≤ 'f') || ('A' ≤ c && c ≤ 'F')

/-- Splits off blanks and comments. A comment runs from `#` up to the next newline; `inComment`
tells whether one is open. -/
def spanTrivia : Bool → Text → Text × Text
  | _, [] => ([], [])
  | true, c :: t =>
    let (skipped, rest) := spanTrivia (c != '\n') t
    (c :: skipped, rest)
  | false, c :: t =>
    if Text.isBlank c then
      let (skipped, rest) := spanTrivia false t
      (c :: skipped, rest)
    else if c = '#' then
      let (skipped, rest) := spanTrivia true t
      (c :: skipped, rest)
    else ([], c :: t)

/-- Splits off a unit of duration. -/
def spanUnit? (t : Text) : Option (Text × Text) :=
  durationUnits.findSome? fun u => if u.isPrefixOf t then some (u, t.drop u.length) else none

/-- Splits off parts of a duration, digits and a unit each, as many as follow one another.
There are at most as many as characters, so `t.length` steps see them all. -/
def spanParts : Nat → Text → Text × Text
  | 0, t => ([], t)
  | steps + 1, t =>
    let digits := t.takeWhile Char.isDigit
    if digits.isEmpty then ([], t)
    else
      match spanUnit? (t.dropWhile Char.isDigit) with
      | none => ([], t)
      | some (u, r) =>
        let (more, rest) := spanParts steps r
        (digits ++ u ++ more, rest)

/-- Splits off a duration: one part or more, not followed by a letter, digit or underscore. -/
def spanDuration? (t : Text) : Option (Text × Text) :=
  let (parts, rest) := spanParts t.length t
  if parts.isEmpty then none
  else
    match rest with
    | [] => some (parts, [])
    | c :: r => if c.isAlphanum || c == '_' then none else some (parts, c :: r)

/-- Splits off an exponent; a mark without digits after it is none. -/
def spanExponent (t : Text) : Text × Text :=
  match t with
  | mark :: sign :: r =>
    if mark = 'e' ∨ mark = 'E' then
      if sign = '+' ∨ sign = '-' then
        let digits := r.takeWhile Char.isDigit
        if digits.isEmpty then ([], t) else (mark :: sign :: digits, r.dropWhile Char.isDigit)
      else
        let digits := (sign :: r).takeWhile Char.isDigit
        if digits.isEmpty then ([], t)
        else (mark :: digits, (sign :: r).dropWhile Char.isDigit)
    else ([], t)
  | _ => ([], t)

/-- Splits off the decimal point and the digits after it. -/
def spanFraction (t : Text) : Text × Text :=
  match t with
  | '.' :: r => ('.' :: r.takeWhile Char.isDigit, r.dropWhile Char.isDigit)
  | _ => ([], t)

/-- Splits off a decimal number. -/
def spanDecimal (t : Text) : Text × Text :=
  let whole := t.takeWhile Char.isDigit
  let (fraction, r) := spanFraction (t.dropWhile Char.isDigit)
  let (exponent, rest) := spanExponent r
  (whole ++ fraction ++ exponent, rest)

/-- Splits off a number; `0x` starts a hexadecimal one, even without digits after it. -/
def spanNumber (t : Text) : Text × Text :=
  match t with
  | '0' :: mark :: r =>
    if mark = 'x' ∨ mark = 'X' then
      ('0' :: mark :: r.takeWhile isHexDigit, r.dropWhile isHexDigit)
    else spanDecimal t
  | _ => spanDecimal t

/-- Splits off what follows an opening quote, through the closing one; tells whether there was
one. A backslash hides the next character, except between backticks. -/
def spanString (quote : Char) : Text → Text × Bool × Text
  | [] => ([], false, [])
  | c :: t =>
    if c = '\\' ∧ quote ≠ Text.backtick then
      match t with
      | [] => ([c], false, [])
      | d :: r =>
        let (body, terminated, rest) := spanString quote r
        (c :: d :: body, terminated, rest)
    else if c = quote then ([c], true, t)
    else
      let (body, terminated, rest) := spanString quote t
      (c :: body, terminated, rest)

/-- The operator of two characters. -/
def pair? : Char → Char → Option Kind
  | '=', '=' => some .eqEq
  | '=', '~' => some .eqTilde
  | '!', '=' => some .notEq
  | '!', '~' => some .notTilde
  | '<', '=' => some .ltEq
  | '>', '=' => some .gtEq
  | _, _ => none

/-- The token of one character. -/
def single : Char → Kind
  | '{' => .leftBrace
  | '}' => .rightBrace
  | '[' => .leftBracket
  | ']' => .rightBracket
  | '(' => .leftParen
  | ')' => .rightParen
  | ',' => .comma
  | ':' => .colon
  | '+' => .plus
  | '-' => .minus
  | '*' => .star
  | '/' => .slash
  | '%' => .percent
  | '^' => .caret
  | '=' => .eq
  | '<' => .lt
  | '>' => .gt
  | c => .invalid c

/-- One token split off a text: its kind, its characters and what follows. -/
structure Lexeme where
  kind : Kind
  text : Text
  rest : Text
  deriving DecidableEq, Repr

/-- Splits off a number or a duration; a duration wins where both fit. -/
def numeric (t : Text) : Lexeme :=
  match spanDuration? t with
  | some (d, rest) => ⟨.duration (String.ofList d), d, rest⟩
  | none =>
    let (n, rest) := spanNumber t
    ⟨.number (String.ofList n), n, rest⟩

/-- Splits off an operator, a bracket, a separator or a character that starts no token. -/
def symbol (c : Char) (t : Text) : Lexeme :=
  match t with
  | d :: r =>
    match pair? c d with
    | some kind => ⟨kind, [c, d], r⟩
    | none => ⟨single c, [c], t⟩
  | [] => ⟨single c, [c], []⟩

/-- Whether a text starts with a digit. -/
def startsWithDigit : Text → Bool
  | [] => false
  | c :: _ => c.isDigit

/-- The token at the start of `c :: t`, which starts with no blank or comment. -/
def lexeme (c : Char) (t : Text) : Lexeme :=
  if isNameStart c then
    let name := c :: t.takeWhile isNameRest
    ⟨.ident (String.ofList name), name, t.dropWhile isNameRest⟩
  else if c.isDigit || (c == '.' && startsWithDigit t) then numeric (c :: t)
  else if Text.isQuote c then
    let (body, terminated, rest) := spanString c t
    ⟨.string (String.ofList (c :: body)) terminated, c :: body, rest⟩
  else symbol c t

/-- The tokens of `t`, which starts at byte `offset`, through the end of input. Each token takes
a character or more, so `t.length` steps see them all. -/
def scanFrom : Nat → Nat → Text → List Token
  | 0, offset, t => [finish (offset + Text.size t)]
  | steps + 1, offset, t =>
    let (skipped, rest) := spanTrivia false t
    let start := offset + Text.size skipped
    match rest with
    | [] => [finish start]
    | c :: r =>
      let lex := lexeme c r
      let length := Text.size lex.text
      ⟨lex.kind, ⟨start, length⟩⟩ :: scanFrom steps (start + length) lex.rest

/-- The tokens of a text; the last one is the end of input. -/
def scan (t : Text) : List Token := scanFrom t.length 0 t

end MetricQuery.Token
