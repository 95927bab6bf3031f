import MetricQuery.Json.Number

/-!
Values in one form: members in the order of their names, each name once, and numbers in their own
spelling. A value has such a form if it is sound, that is, if every text in it stands for a string,
every number is in range, and arrays and objects nest no deeper than allowed.
-/

set_option autoImplicit false

namespace MetricQuery.Json

/-- How deep arrays and objects may nest. -/
def deepest : Nat := 127

mutual

/-- Whether a value is sound, when so many levels may nest. -/
def isSoundAt (levels : Nat) : Json → Bool
  | .null | .bool _ | .string _ => true
  | .number literal => (JsonNumber.ofLiteral? literal).isSome
  | .array items => levels != 0 && areSoundItems (levels - 1) items
  | .object members => levels != 0 && areSoundMembers (levels - 1) members
  | .garbled => false

/-- Whether all items are sound. -/
def areSoundItems (levels : Nat) : List Json → Bool
  | [] => true
  | item :: items => isSoundAt levels item && areSoundItems levels items

/-- Whether the values of all members are sound. -/
def areSoundMembers (levels : Nat) : List (String × Json) → Bool
  | [] => true
  | (_, value) :: members => isSoundAt levels value && areSoundMembers levels members

end

/-- Whether a value is sound. -/
def isSound (value : Json) : Bool := isSoundAt deepest value

/-- Puts a member in front of members in the order of their names, where its name puts it; one
that is named later stays. -/
def insertMember (name : String) (value : Json) : List (String × Json) → List (String × Json)
  | [] => [(name, value)]
  | m :: ms =>
    if name < m.1 then (name, value) :: m :: ms
    else if m.1 < name then m :: insertMember name value ms
    else m :: ms

mutual

/-- The one form of a value. Of members of one name the last counts. -/
def canonical : Json → Json
  | .number literal =>
    .number (((JsonNumber.ofLiteral? literal).map JsonNumber.text).getD literal)
  | .array items => .array (canonicalItems items)
  | .object members => .object (canonicalMembers members)
  | value => value

/-- The forms of items. -/
def canonicalItems : List Json → List Json
  | [] => []
  | item :: items => canonical item :: canonicalItems items

/-- The forms of members. -/
def canonicalMembers : List (String × Json) → List (String × Json)
  | [] => []
  | (name, value) :: members => insertMember name (canonical value) (canonicalMembers members)

end

end MetricQuery.Json
