import MetricQuery.Json.Basic

/-!
Records read from JSON. A record with fixed fields is written as an object, or as an array of its
fields in their order. Members of other names are skipped; a field written twice is refused.
-/

set_option autoImplicit false

namespace MetricQuery

namespace Json

/-- The fields of a record, each with its value if one is written. -/
structure Record where
  /-- Whether the record was written as an array. -/
  positional : Bool
  values : List (String × Option Json)

/-- The value of a field, unless it is written twice. -/
def memberOnce? (members : List (String × Json)) (name : String) : Option (Option Json) :=
  match members.filter (·.1 == name) with
  | [] => some none
  | [(_, value)] => some (some value)
  | _ => none

/-- Reads a record with the fields `names`. -/
def record? (names : List String) : Json → Option Record
  | .object members => do
    let values ← names.mapM (memberOnce? members)
    some ⟨false, names.zip values⟩
  | .array items =>
    if names.length < items.length then none
    else
      let missing := List.replicate (names.length - items.length) none
      some ⟨true, names.zip (items.map some ++ missing)⟩
  | _ => none

namespace Record

/-- The value of a field, if one is written. -/
def value? (r : Record) (name : String) : Option Json :=
  ((r.values.find? (·.1 == name)).map Prod.snd).join

/-- A field that must be written. -/
def required {α : Type} (r : Record) (name : String) (read : Json → Option α) : Option α :=
  (r.value? name).bind read

/-- A field that has a value even when it is not written. -/
def withDefault {α : Type} (r : Record) (name : String) (default : α) (read : Json → Option α) :
    Option α :=
  match r.value? name with
  | none => some default
  | some value => read value

/-- A field that may be null or not written. -/
def optional {α : Type} (r : Record) (name : String) (read : Json → Option α) :
    Option (Option α) :=
  match r.value? name with
  | none => some none
  | some value => if value.isNull then some none else (read value).map some

/-- A field that may be null, and that an object, but not an array, may leave out. -/
def nullable {α : Type} (r : Record) (name : String) (read : Json → Option α) :
    Option (Option α) :=
  if r.positional && (r.value? name).isNone then none else r.optional name read

end Record

/-- Reads every item of an array. -/
def listOf? {α : Type} (read : Json → Option α) (value : Json) : Option (List α) :=
  value.items?.bind (·.mapM read)

/-- Puts a value under a name: in the place of an earlier one, else at the end. -/
def putMember {α : Type} (members : List (String × α)) (name : String) (value : α) :
    List (String × α) :=
  if members.any (·.1 == name) then
    members.map fun m => if m.1 == name then (name, value) else m
  else members ++ [(name, value)]

/-- Reads an object as a map in writing order; of a repeated name the first place and the last
value count. -/
def mapOf? {α : Type} (read : Json → Option α) (value : Json) : Option (List (String × α)) :=
  value.members?.bind fun members =>
    members.foldlM (fun entries (name, v) => (read v).map (putMember entries name)) []

end Json

end MetricQuery
