import TenantGateway.Proofs.Composer.Metering
import TenantGateway.Proofs.Sync.Handling

/-!
# What handling an event meters

An event that is answered with a merge has counted one merge, and every event has counted the layers that it took
(`Sync.Handled.meters`). A skipped or suppressed event is counted once under the kind of its resource, and no other event is
(`Sync.metrics_handle`).
-/

namespace TenantGateway

/-- The counter of an outcome, if it is counted, for an event about a resource of the given kind. -/
def SyncOutcome.counter? (kind : ResourceKind) : SyncOutcome → Option Metric
  | .skipped => some (.skipped kind)
  | .suppressed => some (.suppressed kind)
  | _ => none

/-- What is noted of an outcome is kept by the synchroniser. -/
theorem SyncOutcome.keeper_of_counter? {kind : ResourceKind} {outcome : SyncOutcome} {m : Metric}
    (h : outcome.counter? kind = some m) : m.keeper = .sync := by
  cases outcome <;> cases h <;> rfl

/-- A counter of outcomes counts one outcome under one kind. -/
theorem SyncOutcome.bind_counter?_iff {kind : ResourceKind} {outcome : SyncOutcome} {m : Metric} (h : outcome.counter? kind = some m)
    (synced? : Option (ResourceKind × SyncOutcome)) :
    (synced?.bind fun e => e.2.counter? e.1) = some m ↔ synced? = some (kind, outcome) := by
  rcases synced? with - | ⟨kind', outcome'⟩
  · simp
  · cases outcome <;> cases h <;> cases outcome' <;> simp [counter?]

namespace Sync

variable {s s' : Sync} {kind : ResourceKind} {outcome : SyncOutcome}

/-- A merge is counted when an event is answered with one, and every layer that the event took. -/
theorem Handled.meters {e : ResourceEvent} {composer : Composer} (h : s.Handled kind e outcome composer) :
    s.composer.Meters (if outcome = .merged then 1 else 0) composer := by
  cases h with
  | skipped => exact .refl s.composer
  | suppressed => exact .refl s.composer
  | merged _ hloses _ _ hmerge haside => exact hloses.meters_merge hmerge haside
  | left _ _ _ hrevoke => exact (Composer.loses_revoke hrevoke).meters
  | withdrawn _ hloses => exact hloses.meters

/-! ## Outcomes -/

theorem metrics_merge {f : Fragment} (h : s.merge f = .ok (outcome, s')) : s'.metrics = s.metrics.note (outcome.counter? kind) := by
  obtain ⟨composer, -, hresult⟩ := bind_eq_ok.1 h
  obtain ⟨rfl, rfl⟩ := Prod.mk.inj (Except.ok.inj hresult)
  rfl

theorem metrics_update {previous current : Option Fragment} (h : s.update kind previous current = .ok (outcome, s')) :
    s'.metrics = s.metrics.note (outcome.counter? kind) := by
  cases previous with
  | none =>
    cases current with
    | none =>
      obtain ⟨rfl, rfl⟩ := Prod.mk.inj (Except.ok.inj h)
      rfl
    | some current => exact metrics_merge h
  | some previous =>
    cases current with
    | none =>
      obtain ⟨⟨any, composer⟩, -, hresult⟩ := bind_eq_ok.1 h
      obtain ⟨rfl, rfl⟩ := Prod.mk.inj (Except.ok.inj hresult)
      rfl
    | some current =>
      rw [update] at h
      split at h
      · obtain ⟨rfl, rfl⟩ := Prod.mk.inj (Except.ok.inj h)
        rfl
      · split at h
        · exact metrics_merge h
        · obtain ⟨⟨any, composer⟩, -, hresult⟩ := bind_eq_ok.1 h
          exact metrics_merge (s := s.withComposer composer) hresult

theorem metrics_withdraw {uid : String} {order : List TenantId} (h : s.withdraw kind uid order = .ok (outcome, s')) :
    s'.metrics = s.metrics.note (outcome.counter? kind) := by
  rw [withdraw] at h
  split at h
  · obtain ⟨rfl, rfl⟩ := Prod.mk.inj (Except.ok.inj h)
    rfl
  · obtain ⟨composer, -, hresult⟩ := bind_eq_ok.1 h
    obtain ⟨rfl, rfl⟩ := Prod.mk.inj (Except.ok.inj hresult)
    rfl

theorem metrics_delete {r : Resource} {order : List TenantId} (h : s.delete kind r order = .ok (outcome, s')) :
    s'.metrics = s.metrics.note (outcome.counter? kind) := by
  rw [delete] at h
  split at h
  · exact metrics_withdraw h
  · obtain ⟨⟨any, composer⟩, -, hresult⟩ := bind_eq_ok.1 h
    cases any with
    | true =>
      obtain ⟨rfl, rfl⟩ := Prod.mk.inj (Except.ok.inj hresult)
      rfl
    | false => exact metrics_withdraw (s := s.withComposer composer) hresult

/-- What an event that is not refused adds to the readings is told by its outcome. -/
theorem metrics_handle {e : ResourceEvent} {order : List TenantId} (h : s.handle kind e order = .ok (outcome, s')) :
    s'.metrics = s.metrics.note (outcome.counter? kind) := by
  cases e with
  | added r =>
    rw [handle] at h
    split at h
    · exact metrics_merge h
    · obtain ⟨rfl, rfl⟩ := Prod.mk.inj (Except.ok.inj h)
      rfl
  | updated old new => exact metrics_update h
  | deleted r unknown => exact metrics_delete h

end Sync

end TenantGateway
