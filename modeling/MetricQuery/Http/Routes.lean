import MetricQuery.Http.Basic

/-!
A server in memory. It answers by path, from a table of routes, and keeps a log of what it
received. A request to another address never arrives.
-/

set_option autoImplicit false

namespace MetricQuery.Http

/-- What the server answers on a path. Status 0 closes the connection without an answer. -/
structure Route where
  path : String
  status : Nat
  body : String
  deriving DecidableEq, Repr

/-- A request that arrived, and the path it was for. -/
structure Arrival where
  path : String
  request : Request
  deriving Repr

/-- The server: its address, its routes, and what it received so far. -/
structure RouteServer where
  address : String
  routes : List Route
  log : List Arrival

namespace RouteServer

/-- The path of a URL, if it is one of this server: what follows the address, from a slash on. -/
def path? (s : RouteServer) (url : String) : Option String :=
  match Text.cutAt? s.address.toList url.toList with
  | some ([], []) => some ""
  | some ([], '/' :: path) => some (String.ofList ('/' :: path))
  | _ => none

/-- The phrase that goes with a status. -/
def reason : Nat → String
  | 200 => "OK"
  | 201 => "Created"
  | 202 => "Accepted"
  | 204 => "No Content"
  | _ => "Status"

/-- What the server answers on a path; an unknown one is not found. -/
def answer (s : RouteServer) (path : String) : Option Response :=
  match s.routes.find? (·.path == path) with
  | none => some ⟨404, reason 404, ""⟩
  | some route =>
    if route.status = 0 then none else some ⟨route.status, reason route.status, route.body⟩

/-- The transport to the server. -/
def transport : Transport RouteServer where
  send request s :=
    match s.path? request.url with
    | none => (none, s)
    | some path => (s.answer path, { s with log := s.log ++ [⟨path, request⟩] })

end RouteServer

end MetricQuery.Http
