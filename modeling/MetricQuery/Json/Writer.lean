import MetricQuery.Json.Basic

/-!
Writing JSON, on one line or indented by two blanks a level. Only quotes, backslashes and control
characters are escaped.
-/

set_option autoImplicit false

namespace MetricQuery.Json

/-- Two hexadecimal digits. -/
def hexPair (n : Nat) : Text := [Nat.digitChar (n / 16), Nat.digitChar (n % 16)]

/-- How a character stands in a string. -/
def escapeChar (c : Char) : Text :=
  if c = '"' then ['\\', '"']
  else if c = '\\' then ['\\', '\\']
  else if c = '\x08' then ['\\', 'b']
  else if c = '\x0c' then ['\\', 'f']
  else if c = '\n' then ['\\', 'n']
  else if c = '\r' then ['\\', 'r']
  else if c = '\t' then ['\\', 't']
  else if c.toNat < 0x20 then ['\\', 'u', '0', '0'] ++ hexPair c.toNat
  else [c]

/-- A string with its quotes. -/
def writeString (s : String) : String :=
  "\"" ++ String.ofList (s.toList.flatMap escapeChar) ++ "\""

/-- How values are laid out: what stands before each item, before a closing bracket, and after
the colon of a member. -/
structure Layout where
  beforeItem : Nat → String
  beforeClose : Nat → String
  afterColon : String

/-- A new line with two blanks a level. -/
def indent (level : Nat) : String := "\n" ++ String.ofList (List.replicate (2 * level) ' ')

/-- Everything on one line, without blanks. -/
def Layout.compact : Layout := ⟨fun _ => "", fun _ => "", ""⟩

/-- An item a line. -/
def Layout.pretty : Layout := ⟨indent, indent, " "⟩

mutual

/-- Writes a value that stands `level` levels deep. -/
def writeAt (layout : Layout) (level : Nat) : Json → String
  | .null => "null"
  | .bool value => if value then "true" else "false"
  | .number literal => literal
  | .string value => writeString value
  | .array [] => "[]"
  | .array (item :: items) =>
    "[" ++ writeItems layout (level + 1) (item :: items) ++ layout.beforeClose level ++ "]"
  | .object [] => "\x7b\x7d"
  | .object (member :: members) =>
    "\x7b" ++ writeMembers layout (level + 1) (member :: members) ++ layout.beforeClose level
      ++ "\x7d"
  | .garbled => "null"

/-- Writes items with commas between them. -/
def writeItems (layout : Layout) (level : Nat) : List Json → String
  | [] => ""
  | [item] => layout.beforeItem level ++ writeAt layout level item
  | item :: items =>
    layout.beforeItem level ++ writeAt layout level item ++ "," ++ writeItems layout level items

/-- Writes members with commas between them. -/
def writeMembers (layout : Layout) (level : Nat) : List (String × Json) → String
  | [] => ""
  | [(name, value)] =>
    layout.beforeItem level ++ writeString name ++ ":" ++ layout.afterColon
      ++ writeAt layout level value
  | (name, value) :: members =>
    layout.beforeItem level ++ writeString name ++ ":" ++ layout.afterColon
      ++ writeAt layout level value ++ "," ++ writeMembers layout level members

end

/-- A value on one line. -/
def compact (value : Json) : String := writeAt .compact 0 value

/-- A value with an item a line. -/
def pretty (value : Json) : String := writeAt .pretty 0 value

end MetricQuery.Json
