import TenantGateway.Proofs.Composer.Losing
import TenantGateway.Proofs.Sync.Mapping
import TenantGateway.Sync.Effect

/-!
# The ways in which an event is handled

Whatever the composer holds, an event that is not refused was handled in one of five ways (`Sync.Handled`): it was skipped or
suppressed, it merged a fragment, with the previous one revoked first if it belonged to another tenant, it revoked the fragment that a
resource does not contribute any more, or it withdrew the layers of a deleted resource from tenants that held them (`Sync.handled`).
-/

namespace TenantGateway

namespace Sync

/-- How an event was handled, with its outcome and the composer that it leaves. -/
inductive Handled (s : Sync) (kind : ResourceKind) (e : ResourceEvent) : SyncOutcome → Composer → Prop
  | skipped (hprevious : e.previous? s.selector kind = none) (hcurrent : e.current? s.selector kind = none) :
      Handled s kind e .skipped s.composer
  | suppressed {f : Fragment} (hprevious : e.previous? s.selector kind = some f) (hcurrent : e.current? s.selector kind = some f) :
      Handled s kind e .suppressed s.composer
  | merged {f : Fragment} {lost : List TenantId} {middle composer : Composer} (hcurrent : e.current? s.selector kind = some f)
      (hloses : s.composer.Loses e.priorUid lost middle) (hlost : lost.length ≤ 1)
      (hmoves : lost ≠ [] → e.Moves s.selector kind) (hmerge : middle.merge f = .ok composer) (haside : f.tenant ∉ lost) :
      Handled s kind e .merged composer
  | left {f : Fragment} {any : Bool} {composer : Composer} (hprevious : e.previous? s.selector kind = some f)
      (hcurrent : e.current? s.selector kind = none) (hid : f.id = e.priorUid)
      (hrevoke : s.composer.revoke f.tenant f.id = .ok (any, composer)) : Handled s kind e .revoked composer
  | withdrawn {r : Resource} {unknown : Bool} {lost : List TenantId} {composer : Composer} (hdeleted : e = .deleted r unknown)
      (hloses : s.composer.Loses r.uid lost composer) (hlost : lost ≠ []) : Handled s kind e .revoked composer

variable {s s' : Sync} {kind : ResourceKind} {outcome : SyncOutcome}

/-- A withdrawal is skipped when nobody holds the layer, and else takes it from somebody. -/
theorem loses_of_withdraw {uid : String} {order : List TenantId} (h : s.withdraw kind uid order = .ok (outcome, s')) :
    (outcome = .skipped ∧ s'.composer = s.composer) ∨
      (outcome = .revoked ∧ ∃ lost, lost ≠ [] ∧ s.composer.Loses uid lost s'.composer) := by
  rw [withdraw] at h
  split at h
  · obtain ⟨rfl, rfl⟩ := Prod.mk.inj (Except.ok.inj h)
    exact Or.inl ⟨rfl, rfl⟩
  · rename_i howners
    obtain ⟨composer, hrevoke, hresult⟩ := bind_eq_ok.1 h
    obtain ⟨rfl, rfl⟩ := Prod.mk.inj (Except.ok.inj hresult)
    exact Or.inr ⟨rfl, _, howners, Composer.loses_revokeAll_owners hrevoke⟩

theorem handled_delete {r : Resource} {unknown : Bool} {order : List TenantId} (h : s.delete kind r order = .ok (outcome, s')) :
    s.Handled kind (.deleted r unknown) outcome s'.composer := by
  have hwithdraw : ∀ composer, composer = s.composer → (s.withComposer composer).withdraw kind r.uid order = .ok (outcome, s') →
      s.Handled kind (.deleted r unknown) outcome s'.composer := by
    rintro _ rfl h
    rcases loses_of_withdraw h with ⟨rfl, hsame⟩ | ⟨rfl, lost, hlost, hloses⟩
    · rw [hsame]
      exact .skipped rfl rfl
    · exact .withdrawn rfl hloses hlost
  rw [delete] at h
  cases hidentify : s.selector.identify r with
  | none =>
    rw [hidentify] at h
    exact hwithdraw s.composer rfl h
  | some owner =>
    obtain ⟨tenant, id⟩ := owner
    obtain rfl : id = r.uid := LabelSelector.identify_uid hidentify
    rw [hidentify] at h
    obtain ⟨⟨any, composer⟩, hrevoke, hresult⟩ := bind_eq_ok.1 h
    have hloses := Composer.loses_revoke hrevoke
    cases any with
    | true =>
      obtain ⟨rfl, rfl⟩ := Prod.mk.inj (Except.ok.inj hresult)
      exact .withdrawn rfl hloses (List.cons_ne_nil _ _)
    | false =>
      rcases Composer.revoke_cases hrevoke with ⟨-, -, hsame⟩ | ⟨hany, -⟩
      · exact hwithdraw composer hsame hresult
      · nomatch hany

theorem handled_merge {e : ResourceEvent} {f : Fragment} (hcurrent : e.current? s.selector kind = some f)
    (h : s.merge f = .ok (outcome, s')) : s.Handled kind e outcome s'.composer := by
  obtain ⟨composer, hmerge, hresult⟩ := bind_eq_ok.1 h
  obtain ⟨rfl, rfl⟩ := Prod.mk.inj (Except.ok.inj hresult)
  exact .merged hcurrent (.refl _ _) (Nat.zero_le 1) (fun hne => absurd rfl hne) hmerge List.not_mem_nil

theorem handled_update {old new : Resource} {previous current : Option Fragment} (hold : s.fragment? kind old = previous)
    (hnew : s.fragment? kind new = current) (h : s.update kind previous current = .ok (outcome, s')) :
    s.Handled kind (.updated old new) outcome s'.composer := by
  cases previous with
  | none =>
    cases current with
    | none =>
      obtain ⟨rfl, rfl⟩ := Prod.mk.inj (Except.ok.inj h)
      exact .skipped hold hnew
    | some f => exact handled_merge hnew h
  | some p =>
    have hid : p.id = old.uid := (LabelSelector.fragment?_eq_some hold).1
    cases current with
    | none =>
      obtain ⟨⟨any, composer⟩, hrevoke, hresult⟩ := bind_eq_ok.1 h
      obtain ⟨rfl, rfl⟩ := Prod.mk.inj (Except.ok.inj hresult)
      exact .left hold hnew hid hrevoke
    | some f =>
      rw [update] at h
      split at h
      · rename_i hsame
        obtain ⟨rfl, rfl⟩ := Prod.mk.inj (Except.ok.inj h)
        exact .suppressed hold (hsame ▸ hnew)
      · split at h
        · exact handled_merge hnew h
        · rename_i htenant
          obtain ⟨⟨any, composer⟩, hrevoke, hresult⟩ := bind_eq_ok.1 h
          obtain ⟨last, hmerge, hlast⟩ := bind_eq_ok.1 hresult
          obtain ⟨rfl, rfl⟩ := Prod.mk.inj (Except.ok.inj hlast)
          have hloses := Composer.loses_revoke hrevoke
          rw [hid] at hloses
          exact .merged hnew hloses (by cases any <;> simp) (fun _ => ⟨p, f, hold, hnew, htenant⟩) hmerge
            (by cases any <;> simp [Ne.symm htenant])

/-- An event that is not refused was handled in one of the ways listed. -/
theorem handled {e : ResourceEvent} {order : List TenantId} (h : s.handle kind e order = .ok (outcome, s')) :
    s.Handled kind e outcome s'.composer := by
  cases e with
  | added r =>
    rw [handle] at h
    split at h
    · rename_i f hf
      exact handled_merge hf h
    · rename_i hnone
      obtain ⟨rfl, rfl⟩ := Prod.mk.inj (Except.ok.inj h)
      exact .skipped rfl hnone
  | updated old new => exact handled_update rfl rfl h
  | deleted r unknown => exact handled_delete h

end Sync

end TenantGateway
