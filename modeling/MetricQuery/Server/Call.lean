import MetricQuery.Json.Canonical
import MetricQuery.Json.Reader
import MetricQuery.Json.Record

/-!
Calls as they travel. What an editor sends is a call, or an answer to a call of the server; an
answer must be complete to count as one. A call is an object, or an array of its fields, and none
of its fields is written twice.
-/

set_option autoImplicit false

namespace MetricQuery

/-- The number of a call, under which it wants its answer. -/
inductive CallId where
  | integer (value : Int)
  | string (value : String)
  | null
  deriving DecidableEq, Repr

namespace CallId

/-- Whether an integer fits into 64 bits. -/
def isInt64 (n : Int) : Bool := -0x8000000000000000 ≤ n && n < 0x8000000000000000

/-- The integer of 64 bits, if the value is one. -/
def int64? : Json → Option Int
  | .number literal =>
    match JsonNumber.ofLiteral? literal with
    | some (.integer n) => if isInt64 n then some n else none
    | _ => none
  | _ => none

/-- Reads the number of a call. -/
def read? : Json → Option CallId
  | .null => some .null
  | .string value => some (.string value)
  | value => (int64? value).map .integer

/-- The number of a call as JSON. -/
def toJson : CallId → Json
  | .integer value => .number (toString value)
  | .string value => .string value
  | .null => .null

end CallId

/-- A call: what is called, with which parameters, and under which number it wants its answer. -/
structure Call where
  method : String
  params : Option Json
  id : Option CallId

/-- Why something sent is no call. -/
inductive EnvelopeFault where
  /-- It is not JSON. -/
  | unreadable
  /-- It is JSON, but neither a call nor an answer. -/
  | noEnvelope
  deriving DecidableEq, Repr

namespace Call

/-- The version that every envelope names. -/
def version : String := "2.0"

/-- Whether a value names the version. -/
def isVersion (value : Json) : Bool := value.string? == some version

/-- The fields of a call, in their order. -/
def fieldNames : List String := ["jsonrpc", "method", "params", "id"]

/-- Reads a call. -/
def read? (value : Json) : Option Call := do
  let r ← value.record? fieldNames
  let method ← r.withDefault "method" "" Json.string?
  let id ← r.withDefault "id" none fun v => (CallId.read? v).map some
  if ((r.value? "jsonrpc").map isVersion).getD false then
    some ⟨method, (r.value? "params").map Json.canonical, id⟩
  else none

/-- The fields of an error, in their order. -/
def errorNames : List String := ["code", "message", "data"]

/-- Whether a value reports an error: it has a code and a message, and nothing else but data. -/
def isError (value : Json) : Bool :=
  match value.record? errorNames with
  | none => false
  | some r =>
    (r.required "code" CallId.int64?).isSome && (r.required "message" Json.string?).isSome &&
      (r.nullable "data" some).isSome &&
      ((value.members?.getD []).all fun m => errorNames.contains m.1)

/-- Whether the one member of a name satisfies a test. -/
def hasOne (members : List (String × Json)) (name : String) (test : Json → Bool) : Bool :=
  match Json.memberOnce? members name with
  | some (some value) => test value
  | _ => false

/-- Whether a value is an answer to a call. -/
def isAnswer : Json → Bool
  | .object members =>
    hasOne members "jsonrpc" isVersion && hasOne members "id" (fun v => (CallId.read? v).isSome) &&
      (hasOne members "result" (fun _ => true) || hasOne members "error" isError)
  | _ => false

/-- Reads what was sent: a call, or an answer, which is of no interest. What follows is looked at
only behind something that could be read. -/
def decode (t : Text) : Except EnvelopeFault (Option Call) :=
  match (Json.readFirst? t).filter (·.1.isSound) with
  | none => .error .unreadable
  | some (value, rest) =>
    match if isAnswer value then some none else (read? value).map some with
    | none => .error .noEnvelope
    | some sent => if (Json.skipBlanks rest).isEmpty then .ok sent else .error .unreadable

end Call

end MetricQuery
