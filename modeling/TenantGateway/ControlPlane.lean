import TenantGateway.Domain.Bridge
import TenantGateway.Router
import TenantGateway.Run
import TenantGateway.Seed
import TenantGateway.Sync.Basic

/-!
# The control plane

The parts of a gateway that turn events into routes, without queues between them: every event takes effect at once, except
that the bridge follows the configuration one step at a time. The operations on the parts are values, so that a run can
interleave them in any order.
-/

namespace TenantGateway

/-- The parts that turn events into routes. -/
structure ControlPlane where
  sync : Sync
  bridge : Bridge
  router : Router

/-- The operations on a control plane. -/
inductive ControlOp
  | merge (fragment : Fragment)
  | revoke (tenant : TenantId) (id : String)
  | closeComposer
  /-- An event about a resource is handled. When several tenants lose a layer, those listed go first. -/
  | resource (kind : ResourceKind) (event : ResourceEvent) (order : List TenantId := [])
  | domain (origin : Origin) (event : DomainEvent)
  | discovery (event : DiscoveryEvent)
  /-- The bridge takes one step; what it publishes is registered at once. When it subscribes anew, the tenants listed go
  first. -/
  | bridge (order : List TenantId := [])
  | resolve (host : String)
  | route (host : String)
  deriving DecidableEq

namespace ControlOp

/-- The resource event that an operation handles. -/
def resource? : ControlOp → Option (ResourceKind × ResourceEvent)
  | .resource kind event _ => some (kind, event)
  | _ => none

/-- The event that an operation applies to the registrations of the ownership feed. -/
def owned? : ControlOp → Option DomainEvent
  | .domain .feed event => some event
  | _ => none

/-- The report of discovery that an operation applies. -/
def discovery? : ControlOp → Option DiscoveryEvent
  | .discovery event => some event
  | _ => none

/-- Whether an operation is an event from outside or a step of the bridge; the configuration is written by resource events
only, and the registrations that come from it by the bridge only. -/
def IsEvent : ControlOp → Prop
  | .resource _ _ _ => True
  | .domain origin _ => origin = .feed
  | .discovery _ => True
  | .bridge _ => True
  | _ => False

end ControlOp

/-- What an operation on a control plane answers. -/
inductive ControlAnswer
  | refused (error : FeedError)
  | merged
  | revoked (any : Bool)
  | closed
  | synced (outcome : SyncOutcome)
  | registered
  | unlisted (error : StoreError)
  | listed
  | bridged (events : List DomainEvent)
  | resolved (answer : Except ResolveError TenantId)
  | routed (answer : Except RouteError ServiceInstance)

/-- The events that the bridge published, as an answer tells. -/
def ControlAnswer.forwarded : ControlAnswer → List DomainEvent
  | .bridged events => events
  | _ => []

namespace ControlPlane

/-- Nothing is configured, registered or listed. -/
def new (capacity : Nat) (selector : LabelSelector) : ControlPlane :=
  let composer := Composer.new capacity
  ⟨.new composer selector, .new composer, .new⟩

/-- The configuration of all tenants. -/
def composer (p : ControlPlane) : Composer := p.sync.composer

/-- The control plane with its composer changed. -/
def withComposer (p : ControlPlane) (composer : Composer) : ControlPlane :=
  { p with sync := p.sync.withComposer composer }

/-- The control plane with its resolver changed. -/
def withResolver (p : ControlPlane) (resolver : Resolver) : ControlPlane :=
  { p with router := { p.router with resolver } }

/-- The control plane with its catalog changed. -/
def withCatalog (p : ControlPlane) (catalog : Catalog) : ControlPlane :=
  { p with router := { p.router with catalog } }

/-- Performs an operation. -/
def perform (p : ControlPlane) : ControlOp → ControlAnswer × ControlPlane
  | .merge fragment =>
    match p.composer.merge fragment with
    | .ok composer => (.merged, p.withComposer composer)
    | .error e => (.refused e, p)
  | .revoke tenant id =>
    match p.composer.revoke tenant id with
    | .ok (any, composer) => (.revoked any, p.withComposer composer)
    | .error e => (.refused e, p)
  | .closeComposer => (.closed, p.withComposer p.composer.close)
  | .resource kind event order =>
    match p.sync.handle kind event order with
    | .ok (outcome, sync) => (.synced outcome, { p with sync })
    | .error e => (.refused e, p)
  | .domain origin event => (.registered, p.withResolver (p.router.resolver.apply origin event))
  | .discovery event =>
    match p.router.catalog.apply event with
    | .ok catalog => (.listed, p.withCatalog catalog)
    | .error e => (.unlisted e, p)
  | .bridge order =>
    match p.bridge.step p.composer order with
    | (events, bridge) =>
      (.bridged events, { p with bridge }.withResolver (p.router.resolver.applyAll .configuration events))
  | .resolve host =>
    match p.router.resolver.resolve host with
    | (answer, resolver) => (.resolved answer, p.withResolver resolver)
  | .route host =>
    match p.router.route host with
    | (answer, router) => (.routed answer, { p with router })

/-- The control plane after a run of operations. -/
def after (p : ControlPlane) (ops : List ControlOp) : ControlPlane := (performAll perform p ops).2

/-- Every reading of a metric by one of the parts. -/
def reading? (p : ControlPlane) (m : Metric) : Option Nat :=
  [p.composer.metrics, p.sync.metrics, p.router.resolver.metrics, p.router.catalog.metrics, p.router.metrics].findSome?
    fun readings => readings.get? m

end ControlPlane

/-- The events that a seed stands for, in the order in which it is replayed. -/
def Seed.ops (s : Seed) : List ControlOp :=
  s.resources.map (fun r => .resource r.kind (.added r.resource)) ++
    s.registrations.map (fun r => .domain .feed (.put r)) ++
    s.instances.map fun i => .discovery (.add i)

end TenantGateway
