import TenantGateway.Gateway.Basic

/-!
# Loading a seed

A seed is loaded when all its items are visible: of items under one name the last one counts. The registrations that the
bridge derives from configuration have to be visible too, those of every tenant.
-/

namespace TenantGateway

/-- The items that no later one follows under the same name. -/
def lastOccurrences {α κ : Type} [DecidableEq κ] (name : α → κ) : List α → List α
  | [] => []
  | a :: rest =>
    if rest.any fun b => name b = name a then lastOccurrences name rest else a :: lastOccurrences name rest

/-- Whether an item of a list has no later one under its name: the list can be split at it so that none follows. -/
def IsLastOccurrence {α κ : Type} (name : α → κ) (l : List α) (a : α) : Prop :=
  ∃ before later, l = before ++ a :: later ∧ ∀ b ∈ later, name b ≠ name a

/-- Why a seed could not be loaded. -/
inductive SeedLoadError
  | closed (error : FeedClosed)
  /-- The seed did not become visible. -/
  | timeout
  deriving DecidableEq

/-- The wording of the error. -/
def SeedLoadError.message : SeedLoadError → String
  | .closed error => error.message
  | .timeout => "seed was not applied within 30s"

namespace Gateway

/-- Whether an instance is listed as it is. -/
def showsInstance (g : Gateway) (i : ServiceInstance) : Bool :=
  g.catalog.get? i.id == some i

/-- Whether the ownership feed registered the hosts of a registration, and no others, for its tenant. -/
def showsRegistration (g : Gateway) (r : Registration) : Bool :=
  match g.resolver.registration? .feed r.tenant with
  | some stored => stored.domains == r.normalized.domains
  | none => false

/-- Whether the tenant of a fragment has its layer as it is. -/
def showsFragment (g : Gateway) (fragment : Fragment) : Bool :=
  match g.composer.configuration? fragment.tenant with
  | some configuration => configuration.layer? fragment.id == some fragment.properties
  | none => false

/-- Whether the fragment that a resource contributes, if any, is visible. -/
def showsResource (g : Gateway) (r : SeedResource) : Bool :=
  match g.adapter.sync.fragment? r.kind r.resource with
  | some fragment => g.showsFragment fragment
  | none => true

/-- The hosts that the configuration of a tenant lists. -/
def configuredDomains (g : Gateway) (tenant : TenantId) : KeySet String :=
  match g.composer.configuration? tenant with
  | some configuration => (Registration.ofHosts tenant (configuration.list PropertyKey.routingDomains)).domains
  | none => .empty

/-- The hosts that are registered for a tenant because of its configuration. -/
def bridgedDomains (g : Gateway) (tenant : TenantId) : KeySet String :=
  match g.resolver.registration? .configuration tenant with
  | some registration => registration.domains
  | none => .empty

/-- Whether the hosts in the configuration of every tenant are registered, and no others. -/
def bridgeCaughtUp (g : Gateway) : Bool :=
  g.composer.tenants.all fun tenant => g.bridgedDomains tenant == g.configuredDomains tenant

/-- Whether every item of a seed is visible. -/
def seedApplied (g : Gateway) (seed : Seed) : Bool :=
  (lastOccurrences (·.id) seed.instances).all g.showsInstance &&
    (lastOccurrences (·.tenant) seed.registrations).all g.showsRegistration &&
    (lastOccurrences (·.resource.uid) seed.resources).all g.showsResource &&
    g.bridgeCaughtUp

/-- Queues the items of a seed behind what was sent before. -/
def accept (g : Gateway) (sent : Seed) : Gateway :=
  let added (kind : ResourceKind) : List ResourceEvent :=
    (sent.resources.filter fun r => r.kind == kind).map fun r => .added r.resource
  { g with
    queues := {
      configMaps := g.queues.configMaps ++ added .configMap
      secrets := g.queues.secrets ++ added .secret
      owned := g.queues.owned ++ sent.registrations.map .put
      bridged := g.queues.bridged
      discovered := g.queues.discovered ++ sent.instances.map .add } }

/-- Sends the items of a seed, and waits until they are visible. They may be so before they are handled. -/
def loadSeed (g : Gateway) (seed : Seed) : Except SeedLoadError Unit × Gateway :=
  match seed.replay g.ends with
  | (sent, some closed) => (.error (.closed closed), (g.accept sent).settle)
  | (sent, none) =>
    let settled := (g.accept sent).settle
    (if g.seedApplied seed || settled.seedApplied seed then .ok () else .error .timeout, settled)

end Gateway

end TenantGateway
