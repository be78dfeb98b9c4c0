import TenantGateway.Host
import TenantGateway.Identifier
import TenantGateway.Metrics
import TenantGateway.Store.Basic

/-!
# Resolving hosts

Tenants claim hosts by registrations, which come from two origins that do not touch each other's registrations. A host
resolves to a tenant when that tenant alone claims it; two origins that claim it for the same tenant agree. A host that
several tenants claim resolves to none of them.
-/

namespace TenantGateway

/-- All hosts that one tenant claims. -/
structure Registration where
  tenant : TenantId
  domains : KeySet String
  deriving DecidableEq

/-- The registration of the hosts given in any spelling; texts that spell no host are left out. -/
def Registration.ofHosts (tenant : TenantId) (hosts : List String) : Registration :=
  ⟨tenant, .ofKeys (hosts.filterMap Host.normalize)⟩

/-- The registration with its hosts in normalised spelling. -/
def Registration.normalized (r : Registration) : Registration :=
  .ofHosts r.tenant r.domains.keys

/-- Where a registration comes from. -/
inductive Origin
  /-- The feed of domain ownership. -/
  | feed
  /-- The configuration of the tenant. -/
  | configuration
  deriving DecidableEq

/-- A change to the registrations of one origin. -/
inductive DomainEvent
  /-- The registration takes the place of the one that its tenant had. -/
  | put (registration : Registration)
  | delete (tenant : TenantId)
  | clear
  deriving DecidableEq

/-- Why a host has no tenant. -/
inductive ResolveError
  | noMatch
  /-- Several tenants, given in ascending order, claim the host. -/
  | collision (host : String) (tenants : List TenantId)
  deriving DecidableEq

/-- The wording of the error. -/
def ResolveError.message : ResolveError → String
  | .noMatch => "no tenant registered for host"
  | .collision host _ => "host " ++ host ++ " is claimed by more than one tenant"

/-- A registration with its origin. -/
structure Claim where
  origin : Origin
  registration : Registration
  deriving DecidableEq

/-- What a claim is stored under. -/
def Claim.key (claim : Claim) : Origin × TenantId := (claim.origin, claim.registration.tenant)

/-- The registrations of both origins. -/
structure Resolver where
  /-- The claims, indexed by host. -/
  claims : Store (Origin × TenantId) String Claim
  metrics : Metrics

namespace Resolver

/-- The hosts of a claim. -/
def hostsOf (claim : Claim) : List String := claim.registration.domains.keys

/-- Nothing is registered. -/
def new : Resolver := ⟨((Store.new fun claim => some claim.key).createIndex hostsOf).2, .empty⟩

/-- The tenants that claim a host given in normalised spelling, in ascending order. -/
def claimants (r : Resolver) (host : String) : List TenantId :=
  (KeySet.ofKeys ((r.claims.lookup 0 host).map fun claim => claim.registration.tenant)).keys

/-- The tenant that a host belongs to. -/
def owner (r : Resolver) (host : String) : Except ResolveError TenantId :=
  match Host.normalize host with
  | none => .error .noMatch
  | some name =>
    match r.claimants name with
    | [] => .error .noMatch
    | [tenant] => .ok tenant
    | tenants => .error (.collision name tenants)

/-- Looks up the tenant that a host belongs to; a collision is counted. -/
def resolve (r : Resolver) (host : String) : Except ResolveError TenantId × Resolver :=
  match r.owner host with
  | .error (.collision name tenants) =>
    (.error (.collision name tenants), { r with metrics := r.metrics.increment .collisions })
  | answer => (answer, r)

/-- The claims after an event from the given origin. -/
def claimsAfter (r : Resolver) (origin : Origin) : DomainEvent → Store (Origin × TenantId) String Claim
  | .put registration =>
    match r.claims.add ⟨origin, registration.normalized⟩ with
    | .ok (_, claims) => claims
    | .error _ => r.claims
  | .delete tenant => (r.claims.remove (origin, tenant)).2
  | .clear => (r.claims.retain fun claim => claim.origin ≠ origin).2

/-- Applies an event from the given origin. -/
def apply (r : Resolver) (origin : Origin) (event : DomainEvent) : Resolver :=
  let claims := r.claimsAfter origin event
  ⟨claims, r.metrics.set .registrations claims.size⟩

/-- Applies events from the given origin in order. -/
def applyAll (r : Resolver) (origin : Origin) (events : List DomainEvent) : Resolver :=
  events.foldl (fun r event => r.apply origin event) r

/-- The registration of a tenant that came from the given origin. -/
def registration? (r : Resolver) (origin : Origin) (tenant : TenantId) : Option Registration :=
  (r.claims.get? (origin, tenant)).map (·.registration)

/-- Every host that a tenant claims, in ascending order. -/
def domains (r : Resolver) (tenant : TenantId) : List String :=
  (KeySet.ofKeys ([Origin.feed, Origin.configuration].flatMap fun origin =>
    match r.registration? origin tenant with
    | some registration => registration.domains.keys
    | none => [])).keys

/-- The number of registrations of both origins. -/
def size (r : Resolver) : Nat := r.claims.size

/-- Whether nothing is registered. -/
def isEmpty (r : Resolver) : Bool := r.claims.isEmpty

end Resolver

end TenantGateway
