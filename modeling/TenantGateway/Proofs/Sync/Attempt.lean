import TenantGateway.Proofs.Sync
import TenantGateway.Sync.Attempt

/-!
# A refusal comes before any effect

A call that is not refused leaves the composer open, and an open composer refuses nothing. So among the calls of one handling only
the first can be refused, and handling call by call comes to what handling at one stroke comes to (`Sync.attempt_eq_perform`).
-/

namespace TenantGateway

namespace Composer

variable {c : Composer}

/-- An open composer refuses no series of revokes. -/
theorem exists_revokeAll (h : c.feed.closed = false) (id : String) (tenants : List TenantId) :
    ∃ c', c.revokeAll id tenants = .ok c' := by
  induction tenants generalizing c with
  | nil => exact ⟨c, rfl⟩
  | cons t tenants ih =>
    obtain ⟨any, middle, hrevoke⟩ := exists_revoke h t id
    obtain ⟨c', hrest⟩ := ih (isOpen_after_revoke hrevoke)
    exact ⟨c', by rw [revokeAll, hrevoke]; exact hrest⟩

end Composer

namespace Sync

/-- What a handling at one stroke answers, and the state after it: a refused one leaves the state as it was. -/
def outcome (s : Sync) (result : Except FeedError (SyncOutcome × Sync)) : Except FeedError SyncOutcome × Sync :=
  match result with
  | .ok (outcome, s') => (.ok outcome, s')
  | .error error => (.error error, s)

theorem perform_eq_outcome (s : Sync) (op : SyncOp) : s.perform op = s.outcome (s.handle op.kind op.event op.order) := rfl

/-- From where a handling that is not refused began does not matter. -/
theorem outcome_congr {s s' : Sync} {result : Except FeedError (SyncOutcome × Sync)} (h : ∃ x, result = .ok x) :
    s.outcome result = s'.outcome result := by
  obtain ⟨x, rfl⟩ := h
  rfl

/-- A call and what follows it come to what they do at one stroke, when what follows is not refused. -/
theorem calling_eq_outcome {β : Type} {s : Sync} {call : Except FeedError (β × Composer)}
    {next : β → Sync → Except FeedError SyncOutcome × Sync} {rest : β × Composer → Except FeedError (SyncOutcome × Sync)}
    (h : ∀ b composer, call = .ok (b, composer) → next b (s.withComposer composer) = s.outcome (rest (b, composer))) :
    s.calling call next = s.outcome (call >>= rest) := by
  cases call with
  | error e => rfl
  | ok result => exact h result.1 result.2 rfl

variable {s : Sync}

theorem attemptMerge_eq_outcome (s : Sync) (f : Fragment) : s.attemptMerge f = s.outcome (s.merge f) := by
  rw [attemptMerge, merge]
  cases s.composer.merge f <;> rfl

/-- An open composer does not refuse to merge. -/
theorem exists_merge (h : s.composer.feed.closed = false) (f : Fragment) : ∃ x, s.merge f = .ok x := by
  rw [merge, Composer.merge_of_open h]
  exact ⟨_, rfl⟩

theorem attemptUpdate_eq_outcome (s : Sync) (kind : ResourceKind) (previous current : Option Fragment) :
    s.attemptUpdate kind previous current = s.outcome (s.update kind previous current) := by
  cases previous with
  | none =>
    cases current with
    | none => rfl
    | some current => exact attemptMerge_eq_outcome s current
  | some previous =>
    cases current with
    | none =>
      rw [attemptUpdate, update]
      exact calling_eq_outcome fun _ _ _ => rfl
    | some current =>
      rw [attemptUpdate, update]
      split
      · rfl
      · split
        · exact attemptMerge_eq_outcome s current
        · refine calling_eq_outcome fun any composer hrevoke => ?_
          have hopen := Composer.isOpen_after_revoke hrevoke
          exact (attemptMerge_eq_outcome (s.withComposer composer) current).trans (outcome_congr (exists_merge hopen current))

theorem attemptRevokeAll_eq_outcome (uid : String) (tenants : List TenantId) (s : Sync) :
    attemptRevokeAll uid tenants s =
      s.outcome (s.composer.revokeAll uid tenants >>= fun composer => .ok (.revoked, s.withComposer composer)) := by
  induction tenants generalizing s with
  | nil => rfl
  | cons t tenants ih =>
    rw [attemptRevokeAll, Composer.revokeAll, bind_assoc]
    refine calling_eq_outcome fun any composer hrevoke => ?_
    have hopen := Composer.isOpen_after_revoke hrevoke
    obtain ⟨last, hrest⟩ := Composer.exists_revokeAll hopen uid tenants
    have hnext : (s.withComposer composer).composer.revokeAll uid tenants = .ok last := hrest
    rw [ih, hnext]
    dsimp only
    rw [hrest]
    rfl

theorem attemptWithdraw_eq_outcome (s : Sync) (kind : ResourceKind) (uid : String) (order : List TenantId) :
    s.attemptWithdraw kind uid order = s.outcome (s.withdraw kind uid order) := by
  rw [attemptWithdraw, withdraw]
  cases s.composer.owners uid order with
  | nil => rfl
  | cons t tenants => exact attemptRevokeAll_eq_outcome uid (t :: tenants) s

/-- An open composer does not refuse to withdraw a layer. -/
theorem exists_withdraw (h : s.composer.feed.closed = false) (kind : ResourceKind) (uid : String) (order : List TenantId) :
    ∃ x, s.withdraw kind uid order = .ok x := by
  rw [withdraw]
  split
  · exact ⟨_, rfl⟩
  · obtain ⟨composer, hrevoke⟩ := Composer.exists_revokeAll h uid (s.composer.owners uid order)
    rw [hrevoke]
    exact ⟨_, rfl⟩

theorem attemptDelete_eq_outcome (s : Sync) (kind : ResourceKind) (r : Resource) (order : List TenantId) :
    s.attemptDelete kind r order = s.outcome (s.delete kind r order) := by
  rw [attemptDelete, delete]
  cases s.selector.identify r with
  | none => exact attemptWithdraw_eq_outcome s kind r.uid order
  | some owner =>
    refine calling_eq_outcome fun any composer hrevoke => ?_
    have hopen := Composer.isOpen_after_revoke hrevoke
    cases any with
    | true => rfl
    | false =>
      refine (attemptWithdraw_eq_outcome (s.withComposer composer) kind r.uid order).trans ?_
      exact outcome_congr (exists_withdraw hopen kind r.uid order)

/-- Handling an event call by call comes to what handling it at one stroke comes to: a call that is refused is the first one. -/
theorem attempt_eq_perform (s : Sync) (op : SyncOp) : s.attempt op = s.perform op := by
  obtain ⟨kind, event, order⟩ := op
  rw [perform_eq_outcome]
  cases event with
  | added r =>
    rw [attempt, handle]
    dsimp only
    cases s.fragment? kind r with
    | some fragment => exact attemptMerge_eq_outcome s fragment
    | none => rfl
  | updated old new => exact attemptUpdate_eq_outcome s kind _ _
  | deleted r unknown => exact attemptDelete_eq_outcome s kind r order

end Sync

end TenantGateway
