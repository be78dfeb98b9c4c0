import TenantGateway.Proofs.Sync
import TenantGateway.Sync.Live

/-!
# What a deletion leaves behind

When the final labels of a deleted resource name a tenant that holds its layer, the layer is revoked from this tenant alone; else it
is revoked from every tenant that holds it. So layers of the resource stay exactly with the other tenants in the first case
(`Sync.deleted_layer_stays_iff`), and there are such tenants when a resource was added again under another tenant without an
update in between (`Sync.deleted_layer_stays_added_twice`).
-/

namespace TenantGateway

namespace Sync

variable {s s' : Sync} {kind : ResourceKind} {r : Resource} {order : List TenantId} {outcome : SyncOutcome}

/-- A withdrawal that is not refused leaves the layer with no tenant. -/
theorem holds_of_withdraw {uid : String} (h : s.withdraw kind uid order = .ok (outcome, s')) (t : TenantId) :
    s'.composer.holds t uid = false := by
  unfold withdraw at h
  split at h
  · rename_i hnone
    have hnot : t ∉ s.composer.owners uid order := by simp [hnone]
    obtain ⟨-, rfl⟩ := Prod.mk.inj (Except.ok.inj h)
    simpa [Composer.mem_owners, skip] using hnot
  · obtain ⟨composer, hrevoke, hresult⟩ := bind_eq_ok.1 h
    obtain ⟨-, rfl⟩ := Prod.mk.inj (Except.ok.inj hresult)
    have hholds := Composer.holds_of_revokeAll hrevoke t
    by_cases hmem : t ∈ s.composer.owners uid order
    · exact hholds.trans (if_pos hmem)
    · have hnot : s.composer.holds t uid = false := by simpa [Composer.mem_owners] using hmem
      exact hholds.trans ((if_neg hmem).trans hnot)

/-- The layers of a resource that stay with tenants when it is deleted. -/
theorem holds_of_delete (h : s.delete kind r order = .ok (outcome, s')) (t : TenantId) :
    s'.composer.holds t r.uid = true ↔ s.composer.holds t r.uid = true ∧
      ∃ a, a ≠ t ∧ s.selector.identify r = some (a, r.uid) ∧ s.composer.holds a r.uid = true := by
  unfold delete at h
  cases hidentify : s.selector.identify r with
  | none =>
    rw [hidentify] at h
    simp [holds_of_withdraw h t]
  | some owner =>
    obtain ⟨a, id⟩ := owner
    obtain rfl : id = r.uid := LabelSelector.identify_uid hidentify
    rw [hidentify] at h
    obtain ⟨⟨revoked, composer⟩, hrevoke, hresult⟩ := bind_eq_ok.1 h
    obtain ⟨hany, hholds⟩ := Composer.holds_of_revoke hrevoke
    have hheld : ∀ x, composer.holds x r.uid = if a = x then false else s.composer.holds x r.uid := by
      intro x
      simp [hholds x r.uid]
    cases revoked with
    | false =>
      have hgone : s'.composer.holds t r.uid = false := holds_of_withdraw hresult t
      simp [hgone, ← hany]
    | true =>
      obtain ⟨-, rfl⟩ := Prod.mk.inj (Except.ok.inj hresult)
      have hheld : (s.withComposer composer).composer.holds t r.uid = _ := hheld t
      rw [hheld]
      by_cases ht : a = t
      · simp [ht]
      · simp [ht, ← hany]

/-- When a deletion is not refused, a tenant still holds a layer of the deleted resource exactly when it held one before and the
final labels name another tenant that held one too. So no tenant holds one exactly when no tenant held one beside the one that the
final labels name and that held one. -/
theorem deleted_layer_stays_iff (s s' : Sync) (kind : ResourceKind) (r : Resource) (unknown : Bool) (order : List TenantId)
    (outcome : SyncOutcome) (h : s.handle kind (.deleted r unknown) order = .ok (outcome, s')) :
    (∀ t, s'.composer.holds t r.uid = true ↔ s.composer.holds t r.uid = true ∧
      ∃ a, a ≠ t ∧ s.selector.identify r = some (a, r.uid) ∧ s.composer.holds a r.uid = true) ∧
    ((∀ t, s'.composer.holds t r.uid = false) ↔ ∀ a, s.selector.identify r = some (a, r.uid) →
      s.composer.holds a r.uid = true → ∀ t, s.composer.holds t r.uid = true → t = a) := by
  have hstays := holds_of_delete h
  refine ⟨hstays, fun hnone a hlabels ha t ht => ?_, fun honly t => ?_⟩
  · by_contra hne
    have hstill : s'.composer.holds t r.uid = true := (hstays t).2 ⟨ht, a, Ne.symm hne, hlabels, ha⟩
    rw [hnone t] at hstill
    nomatch hstill
  · rw [Bool.eq_false_iff]
    intro hstill
    obtain ⟨ht, a, hne, hlabels, ha⟩ := (hstays t).1 hstill
    exact hne (honly a hlabels ha t ht).symm

/-- A resource that was added under two tenants and is deleted without labels leaves a layer to neither. -/
theorem deleted_layer_stays_iff_unlabelled :
    let s : LabelSelector := ⟨"tenant", "kind", "config"⟩
    let resource (tenant : String) : Resource := ⟨"u", "r", .ofList [("kind", "config"), ("tenant", tenant)], .empty⟩
    let run := performAll perform (.new (.new 1) s)
      [⟨.configMap, .added (resource "a"), []⟩, ⟨.configMap, .added (resource "b"), []⟩]
    ∃ s', run.2.handle .configMap (.deleted ⟨"u", "r", .empty, .empty⟩ true) [] = .ok (.revoked, s') ∧
      ∀ t, s'.composer.holds t "u" = false := by
  intro s resource run
  have hlabels : run.2.selector.identify ⟨"u", "r", .empty, .empty⟩ = none := rfl
  have hrevoked : (run.2.handle .configMap (.deleted ⟨"u", "r", .empty, .empty⟩ true) []).map Prod.fst = .ok .revoked := by
    decide
  cases hhandle : run.2.handle .configMap (.deleted ⟨"u", "r", .empty, .empty⟩ true) [] with
  | error e =>
    rw [hhandle] at hrevoked
    nomatch hrevoked
  | ok result =>
    obtain ⟨outcome, s'⟩ := result
    rw [hhandle] at hrevoked
    obtain rfl : outcome = .revoked := Except.ok.inj hrevoked
    refine ⟨s', rfl, (deleted_layer_stays_iff _ _ _ _ _ _ _ hhandle).2.2 fun a ha => ?_⟩
    rw [hlabels] at ha
    nomatch ha

/-- A resource that was added under two tenants and is deleted with the labels of the first leaves its layer to the second. -/
theorem deleted_layer_stays_added_twice :
    let s : LabelSelector := ⟨"tenant", "kind", "config"⟩
    let resource (tenant : String) : Resource := ⟨"u", "r", .ofList [("kind", "config"), ("tenant", tenant)], .empty⟩
    let run := performAll perform (.new (.new 1) s)
      [⟨.configMap, .added (resource "a"), []⟩, ⟨.configMap, .added (resource "b"), []⟩]
    ∃ s', run.2.handle .configMap (.deleted (resource "a") false) [] = .ok (.revoked, s') ∧
      s'.composer.holds ⟨"b", by decide⟩ "u" = true :=
  ⟨_, rfl, by decide⟩

end Sync

end TenantGateway
