import TenantGateway.Sync.Live

/-!
# The effect of one event

What an event does is told by its resource and by the layers that the tenants have of this resource: the outcome, and the layers that
the event leaves to them. Other resources do not come in.
-/

namespace TenantGateway

/-- The layer of a fragment for the tenant that it goes to, and another one for the other tenants. -/
def Fragment.layerOr (fragment : Option Fragment) (t : TenantId) (other : Option Properties) : Option Properties :=
  match fragment with
  | some f => if f.tenant = t then some f.properties else other
  | none => other

namespace ResourceEvent

/-- Whether an event is about one resource: an update does not change the uid. -/
def KeepsUid : ResourceEvent → Prop
  | .updated old new => old.uid = new.uid
  | _ => True

instance : DecidablePred KeepsUid
  | .added _ => .isTrue trivial
  | .updated old new => inferInstanceAs (Decidable (old.uid = new.uid))
  | .deleted _ _ => .isTrue trivial

/-- The uid under which an event takes layers away: that of the state that it starts from, if it starts from one. -/
def priorUid : ResourceEvent → String
  | .added r => r.uid
  | .updated old _ => old.uid
  | .deleted r _ => r.uid

/-- The fragment that an update replaces. The labels of a deleted resource do not tell what it contributed before. -/
def previous? (s : LabelSelector) (kind : ResourceKind) : ResourceEvent → Option Fragment
  | .updated old _ => s.fragment? kind old
  | _ => none

/-- The fragment that a resource contributes when an event has happened. -/
def current? (s : LabelSelector) (kind : ResourceKind) : ResourceEvent → Option Fragment
  | .added r => s.fragment? kind r
  | .updated _ new => s.fragment? kind new
  | .deleted _ _ => none

/-- Whether an event takes a resource from one tenant to another. -/
def Moves (s : LabelSelector) (kind : ResourceKind) (e : ResourceEvent) : Prop :=
  ∃ previous current, e.previous? s kind = some previous ∧ e.current? s kind = some current ∧ previous.tenant ≠ current.tenant

/-- The fragment that an event merges, if it merges one. -/
def merged? (s : LabelSelector) (kind : ResourceKind) : ResourceEvent → Option Fragment
  | .added r => s.fragment? kind r
  | .updated old new => if s.fragment? kind old = s.fragment? kind new then none else s.fragment? kind new
  | .deleted _ _ => none

/-- What an event does, when some tenant holds a layer of its resource and when none does. -/
def outcome (s : LabelSelector) (kind : ResourceKind) (held : Bool) : ResourceEvent → SyncOutcome
  | .added r => if (s.fragment? kind r).isSome then .merged else .skipped
  | .updated old new =>
    if s.fragment? kind old = s.fragment? kind new then
      if (s.fragment? kind new).isSome then .suppressed else .skipped
    else if (s.fragment? kind new).isSome then .merged else .revoked
  | .deleted _ _ => if held then .revoked else .skipped

/-- The layer of its resource that an event leaves to a tenant, given those that the tenants had. A deletion takes the layer from the
tenant that the final labels name, when that tenant has one, else from all of them. -/
def leavesLayer (s : LabelSelector) (kind : ResourceKind) (before : TenantId → Option Properties) (t : TenantId) :
    ResourceEvent → Option Properties
  | .added r => Fragment.layerOr (s.fragment? kind r) t (before t)
  | .updated old new =>
    if s.fragment? kind old = s.fragment? kind new then before t
    else Fragment.layerOr (s.fragment? kind new) t
      (if (s.fragment? kind old).map (·.tenant) = some t then none else before t)
  | .deleted r _ =>
    match s.identify r with
    | some (named, _) => if named ≠ t ∧ (before named).isSome then before t else none
    | none => none

end ResourceEvent

/-- What the events of one resource do in their order, and the layers that they leave to the tenants, given those that they had. -/
inductive LayerHistory (s : LabelSelector) :
    (TenantId → Option Properties) → List (ResourceKind × ResourceEvent) → List SyncOutcome → (TenantId → Option Properties) → Prop
  | nil (before : TenantId → Option Properties) : LayerHistory s before [] [] before
  | cons {before after : TenantId → Option Properties} {events : List (ResourceKind × ResourceEvent)}
      {outcomes : List SyncOutcome} {held : Bool} (kind : ResourceKind) (e : ResourceEvent)
      (hheld : held = true ↔ ∃ t, (before t).isSome = true)
      (rest : LayerHistory s (fun t => e.leavesLayer s kind before t) events outcomes after) :
      LayerHistory s before ((kind, e) :: events) (e.outcome s kind held :: outcomes) after

/-- The events about resources of one kind, in their order. -/
def eventsOfKind (kind : ResourceKind) (events : List (ResourceKind × ResourceEvent)) : List ResourceEvent :=
  (events.filter fun e => e.1 = kind).map (·.2)

/-- The events of a run that are about one resource, in their order. -/
def SyncOp.eventsAbout (uid : String) (ops : List SyncOp) : List (ResourceKind × ResourceEvent) :=
  (ops.map SyncOp.report).filter fun e => e.2.uid = uid

/-- The events of a run that are about one resource, in their order, each with what it was answered. -/
def Sync.answersAbout (s : Sync) (uid : String) (ops : List SyncOp) :
    List ((ResourceKind × ResourceEvent) × Except FeedError SyncOutcome) :=
  ((ops.map SyncOp.report).zip (performAll Sync.perform s ops).1).filter fun e => e.1.2.uid = uid

end TenantGateway
