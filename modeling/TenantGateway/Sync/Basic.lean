import TenantGateway.Composer
import TenantGateway.Sync.Mapping

/-!
# Keeping configuration in step with resources

Every event about a resource is turned into merges and revokes. An update that leaves the fragment as it was is noise and
changes nothing; an update that moves a resource to another tenant revokes the old layer first. A deletion needs the
identity of the resource only: when its final labels name no tenant that holds the layer, it is revoked wherever it is held.
-/

namespace TenantGateway

/-- What one event did to the configuration. -/
inductive SyncOutcome
  | merged
  | revoked
  /-- The update left the fragment as it was. -/
  | suppressed
  /-- The resource contributes nothing, or the deletion found nothing to revoke. -/
  | skipped
  deriving DecidableEq

/-- A composer that follows resources. -/
structure Sync where
  composer : Composer
  selector : LabelSelector
  metrics : Metrics
  deriving DecidableEq

namespace Sync

/-- No event was handled yet. -/
def new (composer : Composer) (selector : LabelSelector) : Sync := ⟨composer, selector, .empty⟩

/-- The fragment that a resource contributes. -/
def fragment? (s : Sync) (kind : ResourceKind) (r : Resource) : Option Fragment :=
  s.selector.fragment? kind r

/-- The same with its composer changed. -/
def withComposer (s : Sync) (composer : Composer) : Sync := { s with composer }

/-- The event was skipped. -/
def skip (s : Sync) (kind : ResourceKind) : SyncOutcome × Sync :=
  (.skipped, { s with metrics := s.metrics.increment (.skipped kind) })

/-- The update was suppressed. -/
def suppress (s : Sync) (kind : ResourceKind) : SyncOutcome × Sync :=
  (.suppressed, { s with metrics := s.metrics.increment (.suppressed kind) })

/-- Merges a fragment. -/
def merge (s : Sync) (fragment : Fragment) : Except FeedError (SyncOutcome × Sync) := do
  let composer ← s.composer.merge fragment
  return (.merged, s.withComposer composer)

/-- Handles an update from one fragment, or none, to another. -/
def update (s : Sync) (kind : ResourceKind) : Option Fragment → Option Fragment → Except FeedError (SyncOutcome × Sync)
  | none, none => .ok (s.skip kind)
  | none, some current => s.merge current
  | some previous, some current =>
    if previous = current then .ok (s.suppress kind)
    else if previous.tenant = current.tenant then s.merge current
    else do
      let (_, composer) ← s.composer.revoke previous.tenant previous.id
      (s.withComposer composer).merge current
  | some previous, none => do
    let (_, composer) ← s.composer.revoke previous.tenant previous.id
    return (.revoked, s.withComposer composer)

/-- Revokes the layer of a resource from every tenant that holds it, in any order: the tenants listed go first. -/
def withdraw (s : Sync) (kind : ResourceKind) (uid : String) (order : List TenantId) :
    Except FeedError (SyncOutcome × Sync) :=
  match s.composer.owners uid order with
  | [] => .ok (s.skip kind)
  | owners => do
    let composer ← s.composer.revokeAll uid owners
    return (.revoked, s.withComposer composer)

/-- Handles the deletion of a resource with the given final state. -/
def delete (s : Sync) (kind : ResourceKind) (r : Resource) (order : List TenantId) :
    Except FeedError (SyncOutcome × Sync) :=
  match s.selector.identify r with
  | none => s.withdraw kind r.uid order
  | some (tenant, id) => do
    let (revoked, composer) ← s.composer.revoke tenant id
    if revoked then return (.revoked, s.withComposer composer)
    else (s.withComposer composer).withdraw kind r.uid order

/-- Handles one event about a resource of the given kind. The tenants listed go first when several lose a layer. -/
def handle (s : Sync) (kind : ResourceKind) (event : ResourceEvent) (order : List TenantId := []) :
    Except FeedError (SyncOutcome × Sync) :=
  match event with
  | .added r =>
    match s.fragment? kind r with
    | some fragment => s.merge fragment
    | none => .ok (s.skip kind)
  | .updated old new => s.update kind (s.fragment? kind old) (s.fragment? kind new)
  | .deleted r _ => s.delete kind r order

end Sync

end TenantGateway
