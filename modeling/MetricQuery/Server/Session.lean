import MetricQuery.Server.Hover
import MetricQuery.Server.Item
import MetricQuery.Server.Workspace

/-!
A session with an editor. It is opened by one request to initialize and closed by one to shut
down; whatever comes outside of that is refused, if it asks for an answer, and else dropped.
-/

set_option autoImplicit false

namespace MetricQuery

/-- What an editor asks for. -/
inductive Request where
  | handshake
  | hover (uri : String) (position : Position)
  | completion (uri : String) (position : Position)
  | shutdown
  deriving DecidableEq, Repr

/-- What an editor sends: a request wants an answer, the rest does not. -/
inductive Message where
  | request (request : Request)
  | initialized
  | document (event : DocumentEvent)
  | exit
  deriving DecidableEq, Repr

/-- Why a request gets no answer. -/
inductive Refusal where
  | notInitialized
  | invalidRequest
  deriving DecidableEq, Repr

/-- The answer to a request. -/
inductive Answer where
  /-- What the server can do. -/
  | capabilities
  | hover (found : Option Hover)
  | completion (items : Option (List CompletionItem))
  | done
  deriving DecidableEq, Repr

/-- How far a session has come. -/
inductive Phase where
  | fresh
  | ready
  | shutDown
  | exited
  deriving DecidableEq, Repr

/-- A session: how far it has come, and its documents. The phases and what is refused in them follow
the handshake of tower-lsp, the library that speaks the protocol, which is not part of this
project. -/
structure Session (σ : Type) where
  phase : Phase
  workspace : Workspace σ

/-- What comes of a message: the session after it, the answer if one is due, and what else the
server tells. -/
structure Reaction (σ : Type) where
  session : Session σ
  answer : Option (Except Refusal Answer)
  notices : List Notice

namespace Session

variable {σ : Type}

/-- What is logged once an editor is ready. -/
def greeting : String := "PromQL language server initialized"

/-- A session at its beginning. -/
def start (state : σ) : Session σ := ⟨.fresh, [], state⟩

/-- Why a session that is not ready refuses. -/
def refusal : Phase → Refusal
  | .fresh => .notInitialized
  | _ => .invalidRequest

/-- The items of a document at a position; nothing for a document that is not open. -/
def complete (a : Assistant σ) (w : Workspace σ) (uri : String) (p : Position) :
    Option (List CompletionItem) × Workspace σ :=
  match w.documents.get? uri with
  | none => (none, w)
  | some doc =>
    let (result, state) := a.complete doc.text (doc.offset p) w.state
    (result.map (CompletionItem.ofResult doc), { w with state := state })

/-- What a request comes to in a session that is ready. -/
def respond (a : Assistant σ) (s : Session σ) : Request → Reaction σ
  | .handshake => ⟨s, some (.error .invalidRequest), []⟩
  | .hover uri p =>
    ⟨s, some (.ok (.hover ((s.workspace.documents.get? uri).bind (Hover.at? · p)))), []⟩
  | .completion uri p =>
    let (items, workspace) := complete a s.workspace uri p
    ⟨{ s with workspace := workspace }, some (.ok (.completion items)), []⟩
  | .shutdown => ⟨{ s with phase := .shutDown }, some (.ok .done), []⟩

/-- What a message comes to in a session that is ready. -/
def receive (a : Assistant σ) (s : Session σ) : Message → Reaction σ
  | .request request => respond a s request
  | .initialized => ⟨s, none, [.log greeting]⟩
  | .document event =>
    let (workspace, notices) := s.workspace.handle a event
    ⟨{ s with workspace := workspace }, none, notices⟩
  | .exit => ⟨{ s with phase := .exited }, none, []⟩

/-- What a message comes to. -/
def step (a : Assistant σ) (s : Session σ) (m : Message) : Reaction σ :=
  match s.phase, m with
  | .ready, m => receive a s m
  | .fresh, .request .handshake => ⟨{ s with phase := .ready }, some (.ok .capabilities), []⟩
  | _, .exit => ⟨{ s with phase := .exited }, none, []⟩
  | phase, .request _ => ⟨s, some (.error (refusal phase)), []⟩
  | _, _ => ⟨s, none, []⟩

/-- What messages come to, one after another: the reaction to each. -/
def run (a : Assistant σ) : Session σ → List Message → List (Reaction σ)
  | _, [] => []
  | s, m :: ms =>
    let reaction := step a s m
    reaction :: run a reaction.session ms

end Session

end MetricQuery
