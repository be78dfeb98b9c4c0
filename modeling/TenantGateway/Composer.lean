import TenantGateway.Configuration
import TenantGateway.Feed.Subscription
import TenantGateway.Metrics

/-!
# Composing configuration

The composer holds the configuration of every tenant in a change feed. Merging a fragment registers its layer last,
revoking one removes its layer, and a tenant whose last layer is revoked is gone. Each of them publishes one event, so a
subscriber sees whole configurations only.
-/

namespace TenantGateway

/-- The configurations of all tenants. -/
structure Composer where
  feed : Feed TenantId Configuration
  metrics : Metrics
  deriving DecidableEq

namespace Composer

/-- No tenant has a configuration. -/
def new (capacity : Nat) : Composer := ⟨.new capacity, .empty⟩

/-- The configuration of a tenant; there is none without layers. -/
def configuration? (c : Composer) (tenant : TenantId) : Option Configuration :=
  c.feed.get? tenant

/-- The tenants with a configuration, in ascending order. -/
def tenants (c : Composer) : List TenantId := c.feed.keys

/-- Whether the tenant has a layer of the fragment. -/
def holds (c : Composer) (tenant : TenantId) (id : String) : Bool :=
  match c.configuration? tenant with
  | some configuration => (configuration.layer? id).isSome
  | none => false

/-- The tenants with a layer of the fragment: those listed go first, the others follow in ascending order. -/
def owners (c : Composer) (id : String) (order : List TenantId := []) : List TenantId :=
  ((Entries.arrange order c.feed.entries.entries).map (·.1)).filter fun tenant => c.holds tenant id

/-- The composer after its feed changed by an operation that the metric counts. -/
def recorded (c : Composer) (metric : Metric) (feed : Feed TenantId Configuration) : Composer :=
  ⟨feed, (c.metrics.increment metric).set .tenants feed.entries.size⟩

/-- Registers the layer of a fragment last with its tenant. -/
def merge (c : Composer) (fragment : Fragment) : Except FeedError Composer := do
  let (_, feed) ← c.feed.modify fragment.tenant fun current =>
    .put ((current.getD .empty).insertLayer fragment.id fragment.properties)
  return c.recorded .merges feed

/-- What becomes of a configuration when the layer of a fragment is revoked. -/
def withoutLayer (id : String) : Option Configuration → Modification Configuration
  | none => .keep
  | some current =>
    if (current.layer? id).isNone then .keep
    else if (current.removeLayer id).isEmpty then .remove
    else .put (current.removeLayer id)

/-- Removes the layer of a fragment from a tenant. Answers whether there was one. -/
def revoke (c : Composer) (tenant : TenantId) (id : String) : Except FeedError (Bool × Composer) := do
  let (revoked, feed) ← c.feed.modify tenant (withoutLayer id)
  return (revoked, if revoked then c.recorded .revokes feed else c)

/-- Removes the layer of a fragment from each of the tenants. -/
def revokeAll (c : Composer) (id : String) : List TenantId → Except FeedError Composer
  | [] => .ok c
  | tenant :: rest => do
    let (_, c') ← c.revoke tenant id
    c'.revokeAll id rest

/-- Subscribes to the configurations. Those of the tenants listed are received first. -/
def observe (c : Composer) (order : List TenantId := []) : Subscription TenantId Configuration := c.feed.observe order

/-- The composer that refuses merging and revoking. -/
def close (c : Composer) : Composer := { c with feed := c.feed.close }

end Composer

end TenantGateway
