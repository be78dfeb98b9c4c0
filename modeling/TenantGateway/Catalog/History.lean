import TenantGateway.Catalog
import TenantGateway.Text.Utf8

/-!
# Histories of discovery

The instances that a history of discovery leaves: those whose last event is an addition under an identity, in the order of
those additions. The order in which they are chosen goes by the bytes of their deployments and identities.
-/

namespace TenantGateway

/-- The live instances under their identities after an event. -/
def DiscoveryEvent.applyTo (live : List (String × ServiceInstance)) : DiscoveryEvent → List (String × ServiceInstance)
  | .add i =>
    match i.identity? with
    | some id => Entries.file live id i
    | none => live
  | .remove id => Entries.erase live id

/-- The live instances under their identities after a history of events. -/
def DiscoveryEvent.live (events : List DiscoveryEvent) : List (String × ServiceInstance) :=
  events.foldl DiscoveryEvent.applyTo []

/-- Whether an event decides about the instance under an identity. -/
def DiscoveryEvent.Touches (id : String) : DiscoveryEvent → Prop
  | .add i => i.identity? = some id
  | .remove removed => removed = id

instance (id : String) : DecidablePred (DiscoveryEvent.Touches id)
  | .add i => inferInstanceAs (Decidable (i.identity? = some id))
  | .remove removed => inferInstanceAs (Decidable (removed = id))

/-- The instance that an event adds. -/
def DiscoveryEvent.instance? : DiscoveryEvent → Option ServiceInstance
  | .add i => some i
  | .remove _ => none

/-- Whether a history leaves an instance in a catalog: the last event about its identity is an addition of it that succeeds. -/
def DiscoveryEvent.LastAdds (events : List DiscoveryEvent) (i : ServiceInstance) : Prop :=
  ∃ before later, events = before ++ .add i :: later ∧ (∃ result, (Catalog.new.applyAll before).add i = .ok result) ∧
    ∀ e ∈ later, ¬e.Touches i.id

/-- The instances of a tenant among all that are listed. -/
def Catalog.liveOf (c : Catalog) (tenant : TenantId) : List ServiceInstance :=
  c.instances.values.filter fun i => i.tenant = tenant

/-- Whether an event, when it can be applied, adds or removes an instance. -/
def Catalog.isChangedBy (c : Catalog) : DiscoveryEvent → Bool
  | .add _ => true
  | .remove id => (c.get? id).isSome

/-- Whether an instance comes before another one by the UTF-8 bytes of its deployment, and then by those of its identity. -/
def ServiceInstance.IsBefore (i j : ServiceInstance) : Prop :=
  Text.utf8 i.deployment.text < Text.utf8 j.deployment.text ∨
    i.deployment = j.deployment ∧ Text.utf8 i.id < Text.utf8 j.id

/-- Whether an instance comes before every other one in a list, or is equal to it, by deployment and identity. -/
def ServiceInstance.IsLeast (i : ServiceInstance) (candidates : List ServiceInstance) : Prop :=
  i ∈ candidates ∧ ∀ j ∈ candidates, j.precedes i = false

end TenantGateway
