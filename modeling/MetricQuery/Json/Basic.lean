import MetricQuery.Text.Basic

/-!
JSON values. Objects keep their members in the order in which they were written, repeated names
included, and numbers keep their spelling.
-/

set_option autoImplicit false

namespace MetricQuery

/-- A JSON value. -/
inductive Json where
  | null
  | bool (value : Bool)
  /-- A number as it is written. -/
  | number (literal : String)
  | string (value : String)
  | array (items : List Json)
  | object (members : List (String × Json))
  /-- Well-formed JSON that stands for no value: a string, or an object with a name, that holds
  half of a surrogate pair. It may be skipped but not used. -/
  | garbled
  deriving Repr

namespace Json

/-- A natural number. -/
def nat (n : Nat) : Json := .number (toString n)

/-- A value that may be absent, as null. -/
def ofOption {α : Type} (encode : α → Json) : Option α → Json
  | some a => encode a
  | none => .null

/-- The items of a list. -/
def list {α : Type} (encode : α → Json) (items : List α) : Json := .array (items.map encode)

/-- A member that is left out when its value is absent. -/
def member? {α : Type} (name : String) (encode : α → Json) (value : Option α) :
    List (String × Json) :=
  (value.map fun a => (name, encode a)).toList

/-- Whether a value is null. -/
def isNull : Json → Bool
  | .null => true
  | _ => false

/-- The string, if the value is one. -/
def string? : Json → Option String
  | .string value => some value
  | _ => none

/-- The truth value, if the value is one. -/
def bool? : Json → Option Bool
  | .bool value => some value
  | _ => none

/-- The items, if the value is an array. -/
def items? : Json → Option (List Json)
  | .array items => some items
  | _ => none

/-- The members, if the value is an object. -/
def members? : Json → Option (List (String × Json))
  | .object members => some members
  | _ => none

/-- The number that decimal digits write; nothing for a text that is no run of digits. -/
def ofDigits? (digits : Text) : Option Nat :=
  if !digits.isEmpty && digits.all Char.isDigit then
    some (digits.foldl (fun n c => n * 10 + (c.toNat - '0'.toNat)) 0)
  else none

/-- The natural number of at most so many bits, if the value is one written in digits alone. -/
def natOfBits? (bits : Nat) : Json → Option Nat
  | .number literal => (ofDigits? literal.toList).filter (· < Nat.pow 2 bits)
  | _ => none

/-- The last member of a name. -/
def get? (name : String) : Json → Option Json
  | .object members => (members.reverse.find? (·.1 == name)).map Prod.snd
  | _ => none

end Json

end MetricQuery
