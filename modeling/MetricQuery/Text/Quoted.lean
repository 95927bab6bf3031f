import MetricQuery.Text.Hidden

/-!
Quoted strings, both ways. `quote` writes any string between double quotes with every quote and
backslash escaped and every hidden character as a code point. `unquote` reads a literal of the
query language: double and single quotes allow escapes, backticks are raw.
-/

set_option autoImplicit false

namespace MetricQuery.Text

/-- The backtick, the quote of raw strings. -/
def backtick : Char := '\x60'

/-- Whether a character opens a string literal. -/
def isQuote (c : Char) : Bool := c == '"' || c == '\x27' || c == backtick

/-- How one character is written between double quotes. -/
def quoteChar (c : Char) : Text :=
  if c = '\x00' then ['\\', '0']
  else if c = '\t' then ['\\', 't']
  else if c = '\r' then ['\\', 'r']
  else if c = '\n' then ['\\', 'n']
  else if c = '"' then ['\\', '"']
  else if c = '\\' then ['\\', '\\']
  else if isHidden c then
    ['\\', 'u', '\x7b'] ++ Nat.toDigits 16 c.toNat ++ ['\x7d']
  else [c]

/-- The body of a quoted string, without its quotes. -/
def quoteBody (t : Text) : Text := t.flatMap quoteChar

/-- A string between double quotes, escaped. -/
def quote (t : Text) : Text := '"' :: quoteBody t ++ ['"']

/-- The opening quote of a literal, if it has one, and the text between its quotes. The closing
quote is dropped when the last character is the opening one again. -/
def stripQuotes : Text → Option Char × Text
  | [] => (none, [])
  | c :: body =>
    if isQuote c then
      (some c, if body.getLast? = some c then body.dropLast else body)
    else (none, c :: body)

/-- Resolves the escapes of a literal's body. An unknown escape stands for itself. -/
def unescape : Text → Text
  | [] => []
  | '\\' :: c :: t =>
    (match c with
      | 'n' => ['\n']
      | 't' => ['\t']
      | 'r' => ['\r']
      | '\\' => ['\\']
      | '"' => ['"']
      | '\x27' => ['\x27']
      | other => ['\\', other]) ++ unescape t
  | c :: t => c :: unescape t

/-- The string a literal stands for; a text without an opening quote stands for itself. -/
def unquote (literal : Text) : Text :=
  match stripQuotes literal with
  | (none, _) => literal
  | (some q, body) => if q = backtick then body else unescape body

end MetricQuery.Text
