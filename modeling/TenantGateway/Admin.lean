import TenantGateway.Http.Form
import TenantGateway.Http.Head
import TenantGateway.Router

/-!
# The admin endpoint

The admin endpoint tells whether the gateway is alive and whether it is ready, and answers which instance a host is routed
to. The host is the value of the first pair named `host` in the query.
-/

namespace TenantGateway

/-- What the admin endpoint looks at. -/
structure RoutingState where
  router : Router
  /-- Whether the gateway is ready to route requests. -/
  ready : Bool

namespace Admin

/-- The host that a query asks for. -/
def host? (query : Option String) : Option String :=
  match query with
  | none => none
  | some text => ((Http.Form.decode text).find? fun pair => pair.1 == "host").map (·.2)

/-- The answer to a request for a route. -/
def decision : Except RouteError ServiceInstance → Http.Response
  | .ok i => .ofJson .ok i.toJson
  | .error e => .ofJson .notFound (.object [("error_message", .text e.message)])

end Admin

namespace RoutingState

/-- Nothing is registered or listed yet. -/
def new : RoutingState := ⟨.new, false⟩

/-- The state of a gateway that is ready. -/
def markReady (s : RoutingState) : RoutingState := { s with ready := true }

/-- Answers a request for the route of a host, which is counted. -/
def answerRoute (s : RoutingState) (host : String) : Http.Response × RoutingState :=
  match s.router.route host with
  | (answer, router) => (Admin.decision answer, { s with router })

/-- Answers a request for a target. -/
def answer (s : RoutingState) (target : Http.Target) : Http.Response × RoutingState :=
  match target.path with
  | "/health" => (.healthy, s)
  | "/ready" => (if s.ready then .healthy else .ofStatus .serviceUnavailable, s)
  | "/route" =>
    match Admin.host? target.query with
    | none => (.ofStatus .badRequest, s)
    | some host => s.answerRoute host
  | _ => (.ofStatus .notFound, s)

/-- Answers a request; the method only decides whether the body is sent. -/
def serve (s : RoutingState) (request : Http.Request) : Http.Response × RoutingState :=
  match s.answer request.target with
  | (response, s') => (response.sentTo request, s')

end RoutingState

end TenantGateway
