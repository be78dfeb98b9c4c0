import Mathlib.Data.Finset.Card
import TenantGateway.Catalog.History
import TenantGateway.Composer.History
import TenantGateway.ControlPlane
import TenantGateway.Domain.History

/-!
# What metrics are to tell

A run is taken apart into its steps, each an operation with the state that it found. How often a step does what a counter counts is
told by the state before it, by its answer and by what it leaves; whether a step sets a gauge, and the number that the gauge stands
for, likewise. Metrics do not come in.
-/

namespace TenantGateway

/-- The instances among which a request for a host can be routed: those of the tenant that the host belongs to. -/
def Router.candidates (r : Router) (host : String) : List ServiceInstance :=
  match r.resolver.owner host with
  | .ok tenant => r.catalog.liveOf tenant
  | .error _ => []

namespace ControlAnswer

/-- Whether a fragment was merged, by itself or for a resource. -/
def merges : ControlAnswer → Bool
  | .merged => true
  | .synced .merged => true
  | _ => false

/-- Whether several tenants claim the host that was looked up or routed. -/
def collides : ControlAnswer → Bool
  | .resolved (.error (.collision _ _)) => true
  | .routed (.error (.unresolved (.collision _ _))) => true
  | _ => false

/-- The reason for which a request could not be routed. -/
def unrouted? : ControlAnswer → Option UnroutedReason
  | .routed (.error e) => some e.reason
  | _ => none

end ControlAnswer

/-- One step of a run: an operation, and the state in which it was performed. -/
structure ControlStep where
  before : ControlPlane
  op : ControlOp

namespace ControlStep

/-- What the operation answered. -/
def answer (x : ControlStep) : ControlAnswer := (x.before.perform x.op).1

/-- The state that the operation left. -/
def after (x : ControlStep) : ControlPlane := (x.before.perform x.op).2

/-- The kind of the resource that an event was about, with the outcome of the event. -/
def synced? (x : ControlStep) : Option (ResourceKind × SyncOutcome) :=
  match x.op, x.answer with
  | .resource kind _ _, .synced outcome => some (kind, outcome)
  | _, _ => none

/-- The instances among which a request could be routed. -/
def candidates (x : ControlStep) : List ServiceInstance :=
  match x.op with
  | .route host => x.before.router.candidates host
  | _ => []

/-- How often a step does what a counter counts. -/
def tally (x : ControlStep) : Metric → Nat
  | .merges => if x.answer.merges then 1 else 0
  | .revokes => (x.before.composer.layers \ x.after.composer.layers).card
  | .skipped kind => if x.synced? = some (kind, .skipped) then 1 else 0
  | .suppressed kind => if x.synced? = some (kind, .suppressed) then 1 else 0
  | .collisions => if x.answer.collides then 1 else 0
  | .unrouted reason => if x.answer.unrouted? = some reason then 1 else 0
  | .multipleCandidates => if 1 < x.candidates.length then 1 else 0
  | .tenants | .registrations | .instances => 0

/-- Whether an event about a registration was applied. -/
def registers (x : ControlStep) : Bool :=
  match x.answer with
  | .registered => true
  | .bridged events => !events.isEmpty
  | _ => false

/-- Whether an instance was added or removed. -/
def lists (x : ControlStep) : Bool :=
  match x.op, x.answer with
  | .discovery event, .listed => x.before.router.catalog.isChangedBy event
  | _, _ => false

/-- Whether a step touches a gauge. -/
def touches (x : ControlStep) : Metric → Bool
  | .tenants => 0 < x.tally .merges + x.tally .revokes
  | .registrations => x.registers
  | .instances => x.lists
  | _ => false

end ControlStep

namespace ControlPlane

/-- The steps of a run. -/
def steps (p : ControlPlane) : List ControlOp → List ControlStep
  | [] => []
  | op :: ops => ⟨p, op⟩ :: (p.perform op).2.steps ops

/-- How often a run does what a counter counts. -/
def total (p : ControlPlane) (ops : List ControlOp) (m : Metric) : Nat :=
  (p.steps ops).foldr (fun x n => x.tally m + n) 0

/-- The number that a gauge stands for. -/
def level (p : ControlPlane) : Metric → Nat
  | .tenants => p.composer.tenants.length
  | .registrations => (p.router.resolver.registered .feed).card + (p.router.resolver.registered .configuration).card
  | .instances => p.router.catalog.size
  | _ => 0

end ControlPlane

end TenantGateway
