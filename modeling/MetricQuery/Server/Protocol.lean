import MetricQuery.Json.Writer
import MetricQuery.Server.Call
import MetricQuery.Server.Method

/-!
The messages of a session as JSON. Members are written in the order of their names, and those
without a value are left out.
-/

set_option autoImplicit false

namespace MetricQuery

/-- The name of the server. -/
def serverName : String := "promql-editor"

/-- The version of the server. -/
def serverVersion : String := "0.1.0"

/-- The characters after which an editor asks for completions. -/
def triggerCharacters : List String := ["\x7b", "(", ",", "=", "[", " "]

/-- What the server can do, as JSON: it completes, hovers, and takes whole documents when they are
opened, changed and saved. -/
def capabilities : Json :=
  .object [
    ("completionProvider", .object [("resolveProvider", .bool false),
      ("triggerCharacters", .list .string triggerCharacters)]),
    ("hoverProvider", .bool true),
    ("textDocumentSync", .object [("change", .nat 1), ("openClose", .bool true),
      ("save", .object [("includeText", .bool true)])])]

/-- A text in Markdown, as JSON. -/
def markdown (text : String) : Json :=
  .object [("kind", .string "markdown"), ("value", .string text)]

/-- An item as JSON. -/
def CompletionItem.toJson (item : CompletionItem) : Json :=
  .object (Json.member? "detail" .string item.candidate.detail ++
    Json.member? "documentation" markdown item.candidate.info ++
    [("insertTextFormat", .nat item.format.code)] ++
    Json.member? "kind" (fun k => .nat k.code) item.candidate.kind ++
    [("label", .string item.candidate.label), ("textEdit", item.edit.toJson)])

/-- A hover as JSON. -/
def Hover.toJson (h : Hover) : Json :=
  .object [("contents", markdown h.content), ("range", h.range.toJson)]

/-- An answer as JSON. -/
def Answer.toJson : Answer → Json
  | .capabilities =>
    .object [("capabilities", MetricQuery.capabilities), ("serverInfo",
      .object [("name", .string serverName), ("version", .string serverVersion)])]
  | .hover found => .ofOption Hover.toJson found
  | .completion items => .ofOption (.list CompletionItem.toJson) items
  | .done => .null

/-- The code of a severity. -/
def Severity.code : Severity → Nat
  | .error => 1
  | .warning => 2

/-- A diagnostic as JSON. -/
def RangedDiagnostic.toJson (d : RangedDiagnostic) : Json :=
  .object [("message", .string d.message), ("range", d.range.toJson),
    ("severity", .nat d.severity.code), ("source", .string "promql")]

/-- The method of a notice. -/
def Notice.method : Notice → String
  | .log _ => "window/logMessage"
  | .diagnostics _ _ => "textDocument/publishDiagnostics"

/-- The parameters of a notice. -/
def Notice.params : Notice → Json
  | .log message => .object [("message", .string message), ("type", .nat 3)]
  | .diagnostics uri found =>
    .object [("diagnostics", .list RangedDiagnostic.toJson found), ("uri", .string uri)]

/-- What is wrong with the parameters of a call. -/
inductive ParamsFault where
  | missing
  /-- The method takes no parameters. -/
  | unexpected (params : Json)
  | mismatch (cause : Mismatch)

/-- The text of a fault. -/
def ParamsFault.message : ParamsFault → String
  | .missing => "Missing params field"
  | .unexpected params => "Unexpected params: " ++ params.compact
  | .mismatch cause => cause.message

/-- What is wrong with a call. -/
inductive CallError where
  | envelope (fault : EnvelopeFault)
  | unknownMethod (method : String)
  /-- The method is known, but not offered. -/
  | notOffered
  | badParams (fault : ParamsFault)
  | refused (reason : Refusal)

/-- The code of an error. -/
def CallError.code : CallError → String
  | .envelope .unreadable => "-32700"
  | .envelope .noEnvelope | .refused .invalidRequest => "-32600"
  | .unknownMethod _ | .notOffered => "-32601"
  | .badParams _ => "-32602"
  | .refused .notInitialized => "-32002"

/-- The text of an error. -/
def CallError.message : CallError → String
  | .envelope .unreadable => "Parse error"
  | .envelope .noEnvelope | .refused .invalidRequest => "Invalid request"
  | .unknownMethod _ | .notOffered => "Method not found"
  | .badParams fault => fault.message
  | .refused .notInitialized => "Server not initialized"

/-- An error as JSON. -/
def CallError.toJson (e : CallError) : Json :=
  let data : List (String × Json) :=
    match e with
    | .unknownMethod method => [("data", .string method)]
    | _ => []
  .object ([("code", .number e.code), ("message", .string e.message)] ++ data)

namespace Call

/-- Reads the parameters of a method that needs some. -/
def readParams {α : Type} (call : Call) (read : Decoder α) : Except ParamsFault α :=
  match call.params with
  | none => .error .missing
  | some params => (read params).mapError .mismatch

/-- The envelope of an answer. -/
def reply (id : CallId) : Except CallError Answer → Json
  | .ok answer =>
    .object [("jsonrpc", .string version), ("result", answer.toJson), ("id", id.toJson)]
  | .error e => .object [("jsonrpc", .string version), ("error", e.toJson), ("id", id.toJson)]

/-- The envelope of a notice. -/
def notify (n : Notice) : Json :=
  .object [("jsonrpc", .string version), ("method", .string n.method), ("params", n.params)]

end Call

namespace Session

variable {σ : Type}

/-- What a message under a number comes to: the session after it, and all that is sent. An answer
is sent only to what is numbered. -/
def perform (a : Assistant σ) (s : Session σ) (id : Option CallId) (m : Message) :
    Session σ × List Json :=
  let reaction := step a s m
  let answers := match id, reaction.answer with
    | some id, some answer => [Call.reply id (answer.mapError .refused)]
    | _, _ => []
  (reaction.session, answers ++ reaction.notices.map Call.notify)

/-- Tells the caller, if it wants an answer, what is wrong. -/
def fail (s : Session σ) (id : Option CallId) (e : CallError) : Session σ × List Json :=
  (s, (id.map fun id => Call.reply id (.error e)).toList)

/-- Refuses a call that comes at the wrong time. -/
def refuse (s : Session σ) (id : Option CallId) : Session σ × List Json :=
  s.fail id (.refused (refusal s.phase))

/-- What a call of a method comes to, at a time when it may be called. A request without a number
is dropped, and so is a notification with one. -/
def callMethod (a : Assistant σ) (s : Session σ) (c : Call) : Method → Session σ × List Json
  | .exit => s.perform a c.id .exit
  | .cancel => (s, [])
  | .handshake =>
    if c.id.isNone then (s, [])
    else
      match c.readParams Handshake.params with
      | .error fault => s.fail c.id (.badParams fault)
      | .ok _ => s.perform a c.id (.request .handshake)
  | .shutdown =>
    match c.params with
    | none => s.perform a c.id (.request .shutdown)
    | some params =>
      fail { s with phase := .shutDown } c.id (.badParams (.unexpected params))
  | .request read =>
    if c.id.isNone then (s, [])
    else
      match c.readParams read with
      | .error fault => s.fail c.id (.badParams fault)
      | .ok none => s.fail c.id .notOffered
      | .ok (some request) => s.perform a c.id (.request request)
  | .notification read =>
    if c.id.isSome then (s, [])
    else
      match c.readParams read with
      | .ok (some message) => s.perform a none message
      | _ => (s, [])

/-- Whether a session is in the phase in which a method may be called. -/
def admits (s : Session σ) : Method → Bool
  | .exit | .cancel => true
  | .handshake => s.phase == .fresh
  | _ => s.phase == .ready

/-- What a call comes to: the session after it, and all that is sent. -/
def call (a : Assistant σ) (s : Session σ) (c : Call) : Session σ × List Json :=
  match Method.ofName? c.method with
  | none => if Method.isOptional c.method then (s, []) else s.fail c.id (.unknownMethod c.method)
  | some method => if s.admits method then s.callMethod a c method else s.refuse c.id

end Session

end MetricQuery
