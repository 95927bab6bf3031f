import MetricQuery.Json.Basic

/-!
Requests over HTTP, as far as metadata needs them. Time appears only as the width of a window
that ends now. A transport carries a request to a server; how it does that is its own affair.
-/

set_option autoImplicit false

namespace MetricQuery.Http

/-- A query parameter. -/
inductive Param where
  /-- The start of a time window, in milliseconds before its end. -/
  | windowStart (milliseconds : Nat)
  /-- The end of a time window: now. -/
  | windowEnd
  /-- A selector of series. -/
  | selector (text : String)
  deriving DecidableEq, Repr

/-- The name of a parameter. -/
def Param.name : Param → String
  | .windowStart _ => "start"
  | .windowEnd => "end"
  | .selector _ => "match[]"

/-- A request: a body makes it a POST, else it is a GET. -/
structure Request where
  url : String
  params : List Param
  body : Option Json
  deriving Repr

/-- The width of the window that a request asks for. -/
def Request.window? (r : Request) : Option Nat :=
  r.params.findSome? fun p =>
    match p with
    | .windowStart milliseconds => some milliseconds
    | _ => none

/-- The selector that a request asks for. -/
def Request.selector? (r : Request) : Option String :=
  r.params.findSome? fun p =>
    match p with
    | .selector text => some text
    | _ => none

/-- An answer to a request. -/
structure Response where
  status : Nat
  reason : String
  body : String
  deriving DecidableEq, Repr

/-- Whether the status of an answer tells of a failure. -/
def Response.isFailure (r : Response) : Bool := 400 ≤ r.status

/-- Carries a request and brings back the answer, or nothing when the way is barred. -/
structure Transport (σ : Type) where
  send : Request → σ → Option Response × σ

/-- What is said of a request that was not carried. The wording is the transport's own. -/
def transportMessage : String := "<transport>"

/-- What is said of a body that cannot be read. The wording is the decoder's own. -/
def decoderMessage : String := "<decoder>"

/-- The address of a server without slashes at its end. -/
def trimSlashes (url : String) : String := String.ofList (Text.trimEndBy (· == '/') url.toList)

/-- The transport that carries nothing. -/
def barred : Transport Unit := ⟨fun _ s => (none, s)⟩

end MetricQuery.Http
