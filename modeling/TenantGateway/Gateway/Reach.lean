import TenantGateway.Composer.History
import TenantGateway.ControlPlane
import TenantGateway.Gateway.Readiness

/-!
# Reachable states of the gateway

A gateway is reachable when it was started with settings that are not refused, and everything since was something sent to
it, a change that somebody made to its composer, a turn of one of its workers, a request or its shutdown, in any order.
-/

namespace TenantGateway

/-- What can happen to a gateway. -/
inductive GatewayStep
  | resource (kind : ResourceKind) (event : ResourceEvent)
  | domain (event : DomainEvent)
  | discovery (event : DiscoveryEvent)
  /-- The items of a seed are queued, up to the first whose feed is closed. -/
  | replay (seed : Seed)
  /-- Somebody who holds the composer merges, revokes or closes it. -/
  | configure (op : ComposerOp)
  /-- A worker takes a turn. The tenants listed go first where it goes through several. A watch may heed requests to end before events. -/
  | turn (worker : Worker) (order : List TenantId := []) (heeds : Bool := false)
  | route (host : String)
  | serve (request : Http.Request)
  | markReady
  | shutdown

/-- The operation on a control plane that stands for one on its composer. -/
def ComposerOp.control : ComposerOp → ControlOp
  | .merge fragment => .merge fragment
  | .revoke tenant id => .revoke tenant id
  | .close => .closeComposer

/-- What a step brings in from outside, as operations on a control plane. Turns of workers and requests bring in nothing. -/
def GatewayStep.inputs : GatewayStep → List ControlOp
  | .resource kind event => [.resource kind event]
  | .domain event => [.domain .feed event]
  | .discovery event => [.discovery event]
  | .replay seed => seed.ops
  | .configure op => [op.control]
  | .turn _ _ _ => []
  | .route _ => []
  | .serve _ => []
  | .markReady => []
  | .shutdown => [.closeComposer]

namespace Gateway

/-- The gateway after a step. -/
def after (g : Gateway) : GatewayStep → Gateway
  | .resource kind event => (g.sendResource kind event).getD g
  | .domain event => g.sendDomain event
  | .discovery event => g.sendDiscovery event
  | .replay seed => g.accept (seed.replay g.ends).1
  | .configure op => g.withComposer (g.composer.perform op).2
  | .turn worker order heeds => g.advance worker order heeds
  | .route host => (g.route host).2
  | .serve request => (g.serve request).2
  | .markReady => g.markReady
  | .shutdown => g.shutdown

/-- Whether a gateway is reachable. -/
def Reachable (g : Gateway) : Prop :=
  ∃ (settings : Settings) (steps : List GatewayStep), settings.invalid? = none ∧ g = steps.foldl after (.start settings)

end Gateway

end TenantGateway
