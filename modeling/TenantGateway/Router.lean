import TenantGateway.Catalog
import TenantGateway.Domain.Resolver

/-!
# Routing requests

A request is routed by its host: to the tenant that the host belongs to, and there to the least of its instances by
deployment and identity, so that all routers with the same catalog choose the same one.
-/

namespace TenantGateway

/-- Why a request cannot be routed. -/
inductive RouteError
  | unresolved (error : ResolveError)
  | noInstances (tenant : TenantId)
  deriving DecidableEq

namespace RouteError

/-- The wording of the error. -/
def message : RouteError → String
  | .unresolved error => error.message
  | .noInstances tenant => "tenant " ++ tenant.text ++ " has no service instances"

/-- The reason under which the error is counted. -/
def reason : RouteError → UnroutedReason
  | .unresolved .noMatch => .noMatch
  | .unresolved (.collision _ _) => .collision
  | .noInstances _ => .noInstances

end RouteError

/-- A resolver and a catalog. -/
structure Router where
  resolver : Resolver
  catalog : Catalog
  metrics : Metrics

namespace Router

/-- Nothing is registered or listed. -/
def new : Router := ⟨.new, .new, .empty⟩

/-- The first instance in routing order. -/
def least? : List ServiceInstance → Option ServiceInstance
  | [] => none
  | i :: rest =>
    match least? rest with
    | some j => if j.precedes i then some j else some i
    | none => some i

/-- The instance that a request for a host goes to. -/
def select (r : Router) (host : String) : Except RouteError ServiceInstance :=
  match r.resolver.owner host with
  | .error error => .error (.unresolved error)
  | .ok tenant =>
    match least? (r.catalog.ofTenant tenant.text) with
    | some i => .ok i
    | none => .error (.noInstances tenant)

/-- Whether the tenant that a host belongs to has more than one instance. -/
def isAmbiguous (r : Router) (host : String) : Bool :=
  match r.resolver.owner host with
  | .ok tenant => 1 < (r.catalog.ofTenant tenant.text).length
  | .error _ => false

/-- Routes a request for a host, which is counted. -/
def route (r : Router) (host : String) : Except RouteError ServiceInstance × Router :=
  let answer := r.select host
  let metrics := if r.isAmbiguous host then r.metrics.increment .multipleCandidates else r.metrics
  let metrics :=
    match answer with
    | .ok _ => metrics
    | .error error => metrics.increment (.unrouted error.reason)
  (answer, { r with resolver := (r.resolver.resolve host).2, metrics })

end Router

end TenantGateway
