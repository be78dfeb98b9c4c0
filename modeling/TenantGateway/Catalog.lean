import TenantGateway.Instance
import TenantGateway.Metrics
import TenantGateway.Store.Basic

/-!
# The catalog of instances

The catalog lists service instances by tenant and by deployment, in the order in which they were added. An instance added
again under its identity takes the place of the one before and moves to the end of its lists.
-/

namespace TenantGateway

/-- A change that discovery reports. -/
inductive DiscoveryEvent
  | add (i : ServiceInstance)
  | remove (id : String)
  deriving DecidableEq

/-- The instances, indexed by tenant and by deployment. -/
structure Catalog where
  instances : Store String String ServiceInstance
  metrics : Metrics

namespace Catalog

/-- The keys of an instance in the index by tenant. -/
def tenantKeys (i : ServiceInstance) : List String := [i.tenant.text]

/-- The keys of an instance in the index by deployment. -/
def deploymentKeys (i : ServiceInstance) : List String := [i.deployment.text]

/-- No instance is listed. -/
def new : Catalog :=
  ⟨(((Store.new ServiceInstance.identity?).createIndex tenantKeys).2.createIndex deploymentKeys).2, .empty⟩

/-- The catalog after its instances changed. -/
def recorded (c : Catalog) (instances : Store String String ServiceInstance) : Catalog :=
  ⟨instances, c.metrics.set .instances instances.size⟩

/-- Adds an instance in place of the one that had its identity. Answers the latter. -/
def add (c : Catalog) (i : ServiceInstance) : Except StoreError (Option ServiceInstance × Catalog) := do
  let (previous, instances) ← c.instances.add i
  return (previous, c.recorded instances)

/-- Removes the instance with the given identity. Answers the instance. -/
def remove (c : Catalog) (id : String) : Option ServiceInstance × Catalog :=
  match c.instances.remove id with
  | (none, _) => (none, c)
  | (some i, instances) => (some i, c.recorded instances)

/-- The instance with the given identity. -/
def get? (c : Catalog) (id : String) : Option ServiceInstance := c.instances.get? id

/-- The instances of a tenant in the order in which they were added. -/
def ofTenant (c : Catalog) (tenant : String) : List ServiceInstance := c.instances.lookup 0 tenant

/-- The first of the instances of a deployment in the order in which they were added. -/
def ofDeployment? (c : Catalog) (deployment : String) : Option ServiceInstance :=
  (c.instances.lookup 1 deployment).head?

/-- The number of instances. -/
def size (c : Catalog) : Nat := c.instances.size

/-- Whether no instance is listed. -/
def isEmpty (c : Catalog) : Bool := c.instances.isEmpty

/-- Applies a change that discovery reports. -/
def apply (c : Catalog) : DiscoveryEvent → Except StoreError Catalog
  | .add i => (c.add i).map (·.2)
  | .remove id => .ok (c.remove id).2

/-- Applies changes in order, leaving out those that cannot be applied. -/
def applyAll (c : Catalog) (events : List DiscoveryEvent) : Catalog :=
  events.foldl (fun c event => (c.apply event).toOption.getD c) c

end Catalog

end TenantGateway
