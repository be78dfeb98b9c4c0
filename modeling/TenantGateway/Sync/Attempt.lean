import TenantGateway.Sync.Live

/-!
# Handling call by call

The handling of an event once more, with every call to the composer taking effect as it is made. When a call is refused, what
the calls before it did is not undone.
-/

namespace TenantGateway

namespace Sync

/-- Goes on with the answer to a call and the composer that the call leaves. A refusal ends the handling where it stands. -/
def calling {β : Type} (s : Sync) (call : Except FeedError (β × Composer))
    (next : β → Sync → Except FeedError SyncOutcome × Sync) : Except FeedError SyncOutcome × Sync :=
  match call with
  | .ok (b, composer) => next b (s.withComposer composer)
  | .error error => (.error error, s)

/-- Ends the handling without a call. -/
def settle (result : SyncOutcome × Sync) : Except FeedError SyncOutcome × Sync := (.ok result.1, result.2)

/-- Merges a fragment. -/
def attemptMerge (s : Sync) (fragment : Fragment) : Except FeedError SyncOutcome × Sync :=
  s.calling ((s.composer.merge fragment).map fun composer => ((), composer)) fun _ s' => settle (.merged, s')

/-- Handles an update from one fragment, or none, to another. -/
def attemptUpdate (s : Sync) (kind : ResourceKind) :
    Option Fragment → Option Fragment → Except FeedError SyncOutcome × Sync
  | none, none => settle (s.skip kind)
  | none, some current => s.attemptMerge current
  | some previous, some current =>
    if previous = current then settle (s.suppress kind)
    else if previous.tenant = current.tenant then s.attemptMerge current
    else s.calling (s.composer.revoke previous.tenant previous.id) fun _ s' => s'.attemptMerge current
  | some previous, none =>
    s.calling (s.composer.revoke previous.tenant previous.id) fun _ s' => settle (.revoked, s')

/-- Revokes the layer of a resource from each of the tenants. -/
def attemptRevokeAll (uid : String) : List TenantId → Sync → Except FeedError SyncOutcome × Sync
  | [], s => settle (.revoked, s)
  | tenant :: rest, s => s.calling (s.composer.revoke tenant uid) fun _ s' => attemptRevokeAll uid rest s'

/-- Revokes the layer of a resource from every tenant that holds it. -/
def attemptWithdraw (s : Sync) (kind : ResourceKind) (uid : String) (order : List TenantId) :
    Except FeedError SyncOutcome × Sync :=
  match s.composer.owners uid order with
  | [] => settle (s.skip kind)
  | owners => attemptRevokeAll uid owners s

/-- Handles the deletion of a resource with the given final state. -/
def attemptDelete (s : Sync) (kind : ResourceKind) (r : Resource) (order : List TenantId) :
    Except FeedError SyncOutcome × Sync :=
  match s.selector.identify r with
  | none => s.attemptWithdraw kind r.uid order
  | some (tenant, id) =>
    s.calling (s.composer.revoke tenant id) fun revoked s' =>
      if revoked then settle (.revoked, s') else s'.attemptWithdraw kind r.uid order

/-- Handles one event. -/
def attempt (s : Sync) (op : SyncOp) : Except FeedError SyncOutcome × Sync :=
  match op.event with
  | .added r =>
    match s.fragment? op.kind r with
    | some fragment => s.attemptMerge fragment
    | none => settle (s.skip op.kind)
  | .updated old new => s.attemptUpdate op.kind (s.fragment? op.kind old) (s.fragment? op.kind new)
  | .deleted r _ => s.attemptDelete op.kind r op.order

end Sync

end TenantGateway
