import MetricQuery.Json.Number
import MetricQuery.Json.Record
import MetricQuery.Text.Quoted

/-!
Typed reading of values in canonical form. A decoder gives what it reads, or tells in which way a
value is not what was expected. Of several mismatches in an object the one under the first name
counts; fields that are missing come last, in the order of the fields.
-/

set_option autoImplicit false

namespace MetricQuery

/-- In which way a value is not what was expected. -/
inductive Mismatch where
  /-- The value is of another kind. -/
  | kind (found : Json) (expected : String)
  /-- The value is of the right kind, but none of the expected ones. -/
  | value (found : Json) (expected : String)
  /-- An array has too few or too many items. -/
  | length (found : Nat) (expected : String)
  | missing (field : String)
  | unknownName (found : String) (known : List String)
  /-- The value has none of the forms of a type. -/
  | noForm (type : String)
  deriving Repr

/-- Reads a value, or tells what is wrong with it. -/
abbrev Decoder (α : Type) := Json → Except Mismatch α

namespace Json

/-- How a value is called in a message. -/
def noun : Json → String
  | .null => "null"
  | .bool value => "boolean `" ++ toString value ++ "`"
  | .number literal =>
    match JsonNumber.ofLiteral? literal with
    | some (.float x) => "floating point `" ++ JsonNumber.floatText x ++ "`"
    | _ => "integer `" ++ literal ++ "`"
  | .string value => "string " ++ String.ofList (Text.quote value.toList)
  | .array _ => "sequence"
  | .object _ => "map"
  | .garbled => "string"

end Json

namespace Mismatch

/-- A name as it stands in a message. -/
def ticked (name : String) : String := "`" ++ name ++ "`"

/-- The names to choose from, as they stand in a message. -/
def choice : List String → String
  | [] => "there are no variants"
  | [a] => "expected " ++ ticked a
  | [a, b] => "expected " ++ ticked a ++ " or " ++ ticked b
  | names => "expected one of " ++ Text.join ", " (names.map ticked)

/-- The text of a mismatch. -/
def message : Mismatch → String
  | .kind found expected => "invalid type: " ++ found.noun ++ ", expected " ++ expected
  | .value found expected => "invalid value: " ++ found.noun ++ ", expected " ++ expected
  | .length found expected => "invalid length " ++ toString found ++ ", expected " ++ expected
  | .missing field => "missing field " ++ ticked field
  | .unknownName found known => "unknown variant " ++ ticked found ++ ", " ++ choice known
  | .noForm type => "data did not match any variant of untagged enum " ++ type

end Mismatch

namespace Decoder

variable {α : Type}

/-- Any value. -/
def any : Decoder Json := .ok

/-- A truth value. -/
def bool : Decoder Bool
  | .bool value => .ok value
  | value => .error (.kind value "a boolean")

/-- A string. -/
def string : Decoder String
  | .string value => .ok value
  | value => .error (.kind value "a string")

/-- An integer from `low` through `high`, of a type called `type`. -/
def integer (type : String) (low high : Int) : Decoder Int
  | .number literal =>
    match JsonNumber.ofLiteral? literal with
    | some (.integer n) =>
      if low ≤ n && n ≤ high then .ok n else .error (.value (.number literal) type)
    | _ => .error (.kind (.number literal) type)
  | value => .error (.kind value type)

/-- A natural number of 32 bits. -/
def nat32 : Decoder Nat := fun value => (integer "u32" 0 0xffffffff value).map Int.toNat

/-- An integer of 32 bits. -/
def int32 : Decoder Int := integer "i32" (-0x80000000) 0x7fffffff

/-- One of some names, written as a string, or as an object that has the name with null. -/
def name (known : List String) : Decoder String
  | .string value =>
    if known.contains value then .ok value else .error (.unknownName value known)
  | .object [(value, content)] =>
    if !known.contains value then .error (.unknownName value known)
    else if content.isNull then .ok value
    else .error (.kind content "unit")
  | .object members => .error (.value (.object members) "map with a single key")
  | value => .error (.kind value "string or map")

/-- A value that may be null. -/
def optional (d : Decoder α) : Decoder (Option α)
  | .null => .ok none
  | value => (d value).map some

/-- An array of values. -/
def list (d : Decoder α) : Decoder (List α)
  | .array items => items.mapM d
  | value => .error (.kind value "a sequence")

end Decoder

/-- What becomes of a field that is not written. -/
inductive Presence where
  /-- It must be written. -/
  | required
  /-- An object may leave it out, an array may not. -/
  | optional
  /-- It may be left out. -/
  | defaulted
  deriving DecidableEq, Repr

/-- A field of a record. -/
structure Field where
  name : String
  presence : Presence
  check : Json → Except Mismatch Unit

namespace Field

variable {α : Type}

/-- A field that must be written. -/
def required (name : String) (d : Decoder α) : Field :=
  ⟨name, .required, fun value => (d value).map fun _ => ()⟩

/-- A field that may be null, and that an object may leave out. -/
def optional (name : String) (d : Decoder α) : Field :=
  ⟨name, .optional, fun value => (Decoder.optional d value).map fun _ => ()⟩

/-- A field that may be null or left out. -/
def defaulted (name : String) (d : Decoder α) : Field :=
  ⟨name, .defaulted, fun value => (Decoder.optional d value).map fun _ => ()⟩

/-- Checks the members of an object: first what is written, in its order, and then what is
missing. -/
def checkMembers (fields : List Field) (members : List (String × Json)) :
    Except Mismatch Unit := do
  members.forM fun m =>
    match fields.find? (·.name == m.1) with
    | some field => field.check m.2
    | none => .ok ()
  fields.forM fun field =>
    if field.presence = .required && !members.any (·.1 == field.name) then
      .error (.missing field.name)
    else .ok ()

/-- Checks the items of an array, of which the first is item number `index`, against fields;
`whole` is what the whole array should have been. -/
def checkItems (whole : String) : Nat → List Field → List Json → Except Mismatch Unit
  | _, [], _ => .ok ()
  | index, field :: fields, [] =>
    if field.presence = .defaulted then checkItems whole (index + 1) fields []
    else .error (.length index whole)
  | index, field :: fields, item :: items => do
    field.check item
    checkItems whole (index + 1) fields items

end Field

namespace Decoder

variable {α : Type}

/-- How a record of so many fields is called in a message. -/
def recordNoun (title : String) (count : Nat) : String :=
  "struct " ++ title ++ " with " ++ toString count
    ++ (if count = 1 then " element" else " elements")

/-- A record, written as an object or as an array of its fields. -/
def record (title : String) (fields : List Field) : Decoder Json.Record
  | .object members => do
    Field.checkMembers fields members
    return ⟨false, fields.map fun f => (f.name, (Json.object members).get? f.name)⟩
  | .array items => do
    Field.checkItems (recordNoun title fields.length) 0 fields items
    if fields.length < items.length then throw (.length items.length "fewer elements in array")
    return ⟨true, fields.zipIdx.map fun (f, i) => (f.name, items[i]?)⟩
  | value => .error (.kind value ("struct " ++ title))

/-- A record put together from groups of fields, which are checked one group after another. It is
written as an object. -/
def merged (title : String) (groups : List (List Field)) : Decoder Json.Record
  | .object members => do
    groups.forM fun fields => Field.checkMembers fields members
    return ⟨false, groups.flatten.map fun f => (f.name, (Json.object members).get? f.name)⟩
  | value => .error (.kind value ("struct " ++ title))

end Decoder

/-- Reads a field of a record. -/
def Json.Record.field {α : Type} (r : Record) (name : String) (d : Decoder α) : Except Mismatch α :=
  match r.value? name with
  | some value => d value
  | none => .error (.missing name)

/-- Reads a field of a record that may be null or left out. -/
def Json.Record.field? {α : Type} (r : Record) (name : String) (d : Decoder α) :
    Except Mismatch (Option α) :=
  match r.value? name with
  | some value => Decoder.optional d value
  | none => .ok none

end MetricQuery
