import MetricQuery.Fault
import MetricQuery.Http.Basic
import MetricQuery.Json.Reader
import MetricQuery.Json.Record
import MetricQuery.Position

/-!
A language service on another machine. It is sent an expression, perhaps with a position in it,
and answers with completion items or with diagnostics.
-/

set_option autoImplicit false

namespace MetricQuery.Remote

/-- What is sent: an expression, how many items are wanted, and where the cursor is. -/
structure Query where
  expr : String
  limit : Nat
  line : Option Nat
  character : Option Nat
  deriving DecidableEq, Repr

/-- A suggestion of the service. -/
structure Item where
  label : String
  kind : Option Nat
  detail : Option String
  edit : Option Edit
  deriving DecidableEq, Repr

/-- A problem that the service found. -/
structure Complaint where
  range : Range
  severity : Option Nat
  message : String
  deriving DecidableEq, Repr

/-- The body of a request. -/
def Query.toJson (q : Query) : Json :=
  .object ([("expr", .string q.expr), ("limit", .nat q.limit)] ++
    Json.member? "positionLine" .nat q.line ++ Json.member? "positionChar" .nat q.character)

/-- Reads what a request may carry. -/
def Query.read? (value : Json) : Option Query := do
  let r ← value.record? ["expr", "limit", "positionLine", "positionChar"]
  return {
    expr := ← r.required "expr" Json.string?
    limit := ← r.required "limit" (Json.natOfBits? 64)
    line := ← r.nullable "positionLine" (Json.natOfBits? 64)
    character := ← r.nullable "positionChar" (Json.natOfBits? 64) }

/-- Reads an item. -/
def Item.read? (value : Json) : Option Item := do
  let r ← value.record? ["label", "kind", "detail", "textEdit"]
  return {
    label := ← r.required "label" Json.string?
    kind := ← r.optional "kind" (Json.natOfBits? 32)
    detail := ← r.optional "detail" Json.string?
    edit := ← r.optional "textEdit" Edit.read? }

/-- Reads a complaint. -/
def Complaint.read? (value : Json) : Option Complaint := do
  let r ← value.record? ["range", "severity", "message"]
  return {
    range := ← r.required "range" Range.read?
    severity := ← r.optional "severity" (Json.natOfBits? 32)
    message := ← r.required "message" Json.string? }

/-- Reads a list; null is an empty one. -/
def readList? {α : Type} (read : Json → Option α) (value : Json) : Option (List α) :=
  if value.isNull then some [] else Json.listOf? read value

/-- What becomes of an answer; only status 200 will do. -/
def receive {α : Type} (read : Json → Option α) (url : String) (answer : Option Http.Response) :
    Except Fault (List α) :=
  match answer with
  | none => .error (.request url Http.transportMessage)
  | some response =>
    let status := toString response.status
    if response.isFailure then .error (.request url (url ++ ": status code " ++ status))
    else if response.status ≠ 200 then .error (.request url (status ++ " " ++ response.reason))
    else
      match (Json.parse? response.body.toList).bind (readList? read) with
      | some items => .ok items
      | none => .error (.decode url Http.decoderMessage)

/-- The service at an address. -/
structure Service where
  url : String
  deriving DecidableEq, Repr

namespace Service

variable {σ : Type}

/-- The service at a URL. -/
def ofUrl (url : String) : Service := ⟨Http.trimSlashes url⟩

/-- Sends a query to an endpoint. -/
def post {α : Type} (service : Service) (transport : Http.Transport σ) (read : Json → Option α)
    (endpoint : String) (q : Query) (s : σ) : Except Fault (List α) × σ :=
  let url := service.url ++ endpoint
  let (answer, s) := transport.send ⟨url, [], some q.toJson⟩ s
  (receive read url answer, s)

/-- Asks for completion items. -/
def items (service : Service) (transport : Http.Transport σ) (q : Query) (s : σ) :
    Except Fault (List Item) × σ :=
  service.post transport Item.read? "/completion" q s

/-- Asks for complaints. -/
def complaints (service : Service) (transport : Http.Transport σ) (q : Query) (s : σ) :
    Except Fault (List Complaint) × σ :=
  service.post transport Complaint.read? "/diagnostics" q s

end Service

end MetricQuery.Remote
