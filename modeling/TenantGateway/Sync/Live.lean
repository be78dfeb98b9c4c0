import TenantGateway.Run
import TenantGateway.Sync.Basic

/-!
# Live resources

The resources that exist after a history of events, and the configuration that they contribute. A history is well formed
when every resource is added before it is updated and deleted, and an update starts from the state that the resource is in.
-/

namespace TenantGateway

/-- The tenant-independent name of a resource in an event: the uid of the state that the event leads to or ends. -/
def ResourceEvent.uid : ResourceEvent → String
  | .added r => r.uid
  | .updated _ new => new.uid
  | .deleted r _ => r.uid

/-- The handling of one event about a resource of the given kind. -/
structure SyncOp where
  kind : ResourceKind
  event : ResourceEvent
  /-- The tenants that go first when several lose a layer. -/
  order : List TenantId := []
  deriving DecidableEq

/-- What an operation tells about a resource. -/
def SyncOp.report (op : SyncOp) : ResourceKind × ResourceEvent := (op.kind, op.event)

/-- Handles one event. Answers what it did; an event that is refused changes nothing. -/
def Sync.perform (s : Sync) (op : SyncOp) : Except FeedError SyncOutcome × Sync :=
  match s.handle op.kind op.event op.order with
  | .ok (outcome, s') => (.ok outcome, s')
  | .error error => (.error error, s)

/-- The live resources with their kinds under their uids, in the order in which the fragments that they contribute last
changed. -/
structure LiveResources where
  entries : List (String × ResourceKind × Resource)
  deriving DecidableEq

namespace LiveResources

/-- No resource is live. -/
def empty : LiveResources := ⟨[]⟩

/-- The kind and the state of a live resource. -/
def get? (live : LiveResources) (uid : String) : Option (ResourceKind × Resource) :=
  Entries.get? live.entries uid

/-- Whether an event may follow: an added resource is new, an updated one is in its old state, a deleted one is live with
the same kind, whatever its final state. -/
def Admits (live : LiveResources) (kind : ResourceKind) : ResourceEvent → Prop
  | .added r => live.get? r.uid = none
  | .updated old new => new.uid = old.uid ∧ live.get? old.uid = some (kind, old)
  | .deleted r _ => ∃ last, live.get? r.uid = some (kind, last)

/-- The live resources after an event. -/
def after (s : LabelSelector) (live : LiveResources) (kind : ResourceKind) : ResourceEvent → LiveResources
  | .added r => ⟨Entries.file live.entries r.uid (kind, r)⟩
  | .updated old new =>
    if s.fragment? kind old = s.fragment? kind new then ⟨Entries.put live.entries new.uid (kind, new)⟩
    else ⟨Entries.file live.entries new.uid (kind, new)⟩
  | .deleted r _ => ⟨Entries.erase live.entries r.uid⟩

/-- The live resources after a history of events. -/
def afterAll (s : LabelSelector) (live : LiveResources) (events : List (ResourceKind × ResourceEvent)) :
    LiveResources :=
  events.foldl (fun live e => live.after s e.1 e.2) live

/-- Whether every event of a history may follow the ones before it. -/
def AdmitsAll (s : LabelSelector) (live : LiveResources) : List (ResourceKind × ResourceEvent) → Prop
  | [] => True
  | e :: rest => live.Admits e.1 e.2 ∧ (live.after s e.1 e.2).AdmitsAll s rest

/-- The fragment that the live resource of a uid contributes. -/
def fragmentOf? (s : LabelSelector) (live : LiveResources) (uid : String) : Option Fragment :=
  (live.get? uid).bind fun e => s.fragment? e.1 e.2

/-- When the fragment that the resource of a uid contributes last changed in a history: the number of events up to the one
that changed it, zero when none did. -/
def lastChange (s : LabelSelector) (uid : String) : LiveResources → List (ResourceKind × ResourceEvent) → Nat
  | _, [] => 0
  | live, e :: rest =>
    match lastChange s uid (live.after s e.1 e.2) rest with
    | 0 => if live.fragmentOf? s uid = (live.after s e.1 e.2).fragmentOf? s uid then 0 else 1
    | n + 1 => n + 2

/-- The layer that a live resource contributes to the configuration of a tenant. -/
def layer? (s : LabelSelector) (tenant : TenantId) (e : String × ResourceKind × Resource) :
    Option (String × Properties) :=
  match s.fragment? e.2.1 e.2.2 with
  | some fragment => if fragment.tenant = tenant then some (e.1, fragment.properties) else none
  | none => none

/-- The layers that the live resources contribute to the configuration of a tenant. -/
def layers (s : LabelSelector) (live : LiveResources) (tenant : TenantId) : List (String × Properties) :=
  live.entries.filterMap (layer? s tenant)

/-- The configuration that the live resources give a tenant; a tenant without layers has none. -/
def configuration? (s : LabelSelector) (live : LiveResources) (tenant : TenantId) : Option Configuration :=
  match live.layers s tenant with
  | [] => none
  | layers => some ⟨layers⟩

end LiveResources

end TenantGateway
