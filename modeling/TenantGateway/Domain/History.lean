import Mathlib.Data.Finset.Dedup
import TenantGateway.Domain.Resolver

/-!
# Histories of registrations

What a history of events means for the registrations of one origin: the last put of a tenant counts, unless the tenant was
deleted or the origin cleared since. Events of the other origin do not matter.
-/

namespace TenantGateway

/-- Whether an event decides about the registration of a tenant. -/
def DomainEvent.Touches (tenant : TenantId) : DomainEvent → Prop
  | .put registration => registration.tenant = tenant
  | .delete t => t = tenant
  | .clear => True

instance (tenant : TenantId) : DecidablePred (DomainEvent.Touches tenant) := fun e => by
  cases e <;> unfold DomainEvent.Touches <;> infer_instance

/-- The hosts that an event leaves to a tenant, given those that it had. -/
def DomainEvent.leaves (tenant : TenantId) (hosts : Option (KeySet String)) : DomainEvent → Option (KeySet String)
  | .put registration => if registration.tenant = tenant then some registration.normalized.domains else hosts
  | .delete t => if t = tenant then none else hosts
  | .clear => none

/-- The hosts that a history of one origin leaves to a tenant. -/
def DomainEvent.hostsAfter (tenant : TenantId) (events : List DomainEvent) : Option (KeySet String) :=
  events.foldl (DomainEvent.leaves tenant) none

/-- The last event of a history has its effect on what the events before it left. -/
theorem DomainEvent.hostsAfter_snoc (tenant : TenantId) (events : List DomainEvent) (e : DomainEvent) :
    hostsAfter tenant (events ++ [e]) = e.leaves tenant (hostsAfter tenant events) :=
  List.foldl_append

/-- The events of one origin in a history of both. -/
def eventsOf (origin : Origin) (events : List (Origin × DomainEvent)) : List DomainEvent :=
  (events.filter fun e => e.1 = origin).map (·.2)

/-- The resolver after a history of events of both origins. -/
def Resolver.run (r : Resolver) (events : List (Origin × DomainEvent)) : Resolver :=
  events.foldl (fun r e => r.apply e.1 e.2) r

/-- The tenants with a registration that came from the given origin. -/
def Resolver.registered (r : Resolver) (origin : Origin) : Finset TenantId :=
  ((r.claims.values.filter fun claim => claim.origin = origin).map fun claim => claim.registration.tenant).toFinset

/-- Whether a tenant claims a host given in normalised spelling. -/
def Resolver.Claims (r : Resolver) (tenant : TenantId) (host : String) : Prop :=
  ∃ origin registration, r.registration? origin tenant = some registration ∧ host ∈ registration.domains.keys

end TenantGateway
