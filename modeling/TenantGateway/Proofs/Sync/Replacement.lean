import TenantGateway.Proofs.Sync
import TenantGateway.Sync.Live

/-!
# What an update leaves behind

An update registers the layer of the fragment that a resource has now. The layer of the fragment that it had before is revoked when
the resource goes to another tenant or contributes nothing any more (`Sync.holds_of_update`). When it stays with its tenant, nothing
is revoked: the new layer takes the place of the old one if it has the same name, and else the old one stays beside it
(`Sync.updated_layer_stays_iff`). So the layer of a resource that was created again under another uid stays, when this is seen as
one update (`Sync.updated_layer_stays_recreated`).
-/

namespace TenantGateway

namespace Sync

variable {s s' : Sync} {kind : ResourceKind} {outcome : SyncOutcome}

/-- A merge that is not refused gives a tenant the layer of the fragment, and takes none. -/
theorem holds_of_merge {f : Fragment} (h : s.merge f = .ok (outcome, s')) (t : TenantId) (id : String) :
    s'.composer.holds t id = true ↔ f.tenant = t ∧ f.id = id ∨ s.composer.holds t id = true := by
  obtain ⟨composer, hmerge, hresult⟩ := bind_eq_ok.1 h
  obtain ⟨-, rfl⟩ := Prod.mk.inj (Except.ok.inj hresult)
  have hholds : (s.withComposer composer).composer.holds t id = _ := Composer.holds_of_merge hmerge t id
  rw [hholds]
  by_cases hf : f.tenant = t ∧ f.id = id <;> simp [hf]

/-- Whoever holds a layer after a revoke of a fragment held it before, and it is not the layer of the fragment. -/
theorem holds_of_leave {f : Fragment} {any : Bool} {composer : Composer}
    (h : s.composer.revoke f.tenant f.id = .ok (any, composer)) (t : TenantId) (id : String) :
    (s.withComposer composer).composer.holds t id = true ↔
      s.composer.holds t id = true ∧ (f.tenant = t → f.id ≠ id) := by
  have hholds : (s.withComposer composer).composer.holds t id = _ := (Composer.holds_of_revoke h).2 t id
  rw [hholds]
  by_cases hf : f.tenant = t ∧ f.id = id
  · simp [hf]
  · rw [if_neg hf, and_iff_left (not_and.1 hf)]

/-- A tenant holds a layer after an update that is not refused when it is the layer of a new fragment, or when the tenant held it before
and it is not the layer of a fragment that has left the tenant. -/
theorem holds_of_update {previous current : Option Fragment} (h : s.update kind previous current = .ok (outcome, s'))
    (t : TenantId) (id : String) :
    s'.composer.holds t id = true ↔
      (previous ≠ current ∧ ∃ f, current = some f ∧ f.tenant = t ∧ f.id = id) ∨
      (s.composer.holds t id = true ∧
        ∀ f, previous = some f → f.tenant = t → f.id = id → ∃ f', current = some f' ∧ f'.tenant = t) := by
  cases previous with
  | none =>
    cases current with
    | none =>
      obtain ⟨-, rfl⟩ := Prod.mk.inj (Except.ok.inj h)
      change s.composer.holds t id = true ↔ _
      simp
    | some current => simp [holds_of_merge h]
  | some previous =>
    cases current with
    | none =>
      obtain ⟨⟨any, composer⟩, hrevoke, hresult⟩ := bind_eq_ok.1 h
      obtain ⟨-, rfl⟩ := Prod.mk.inj (Except.ok.inj hresult)
      simp [holds_of_leave hrevoke]
    | some current =>
      rw [update] at h
      split at h
      · rename_i hsame
        obtain ⟨-, rfl⟩ := Prod.mk.inj (Except.ok.inj h)
        change s.composer.holds t id = true ↔ _
        grind
      · rename_i hchanged
        split at h
        · rename_i htenant
          rw [holds_of_merge h]
          grind
        · rename_i htenant
          obtain ⟨⟨any, composer⟩, hrevoke, hmerge⟩ := bind_eq_ok.1 h
          rw [holds_of_merge hmerge, holds_of_leave hrevoke]
          grind

/-- When an update of a resource that had a fragment is not refused, the tenant of this fragment holds a layer of its name exactly when
the resource has a fragment of the same tenant now, and either this one differs and has the same name or the tenant held the layer
before. So the layer stays only under a fragment of the same tenant and name exactly when the tenant did not hold it before an update to
a fragment of this tenant that is named otherwise. -/
theorem updated_layer_stays_iff (s s' : Sync) (kind : ResourceKind) (old new : Resource) (order : List TenantId)
    (outcome : SyncOutcome) (previous : Fragment) (hold : s.fragment? kind old = some previous)
    (h : s.handle kind (.updated old new) order = .ok (outcome, s')) :
    (s'.composer.holds previous.tenant previous.id = true ↔
      ∃ current, s.fragment? kind new = some current ∧ current.tenant = previous.tenant ∧
        (current ≠ previous ∧ current.id = previous.id ∨ s.composer.holds previous.tenant previous.id = true)) ∧
    ((s'.composer.holds previous.tenant previous.id = true →
      ∃ current, s.fragment? kind new = some current ∧ current.tenant = previous.tenant ∧ current.id = previous.id) ↔
      ∀ current, s.fragment? kind new = some current → current.tenant = previous.tenant → current.id ≠ previous.id →
        s.composer.holds previous.tenant previous.id = false) := by
  have hupdate : s.update kind (some previous) (s.fragment? kind new) = .ok (outcome, s') := hold ▸ h
  have hstays : s'.composer.holds previous.tenant previous.id = true ↔
      ∃ current, s.fragment? kind new = some current ∧ current.tenant = previous.tenant ∧
        (current ≠ previous ∧ current.id = previous.id ∨ s.composer.holds previous.tenant previous.id = true) := by
    rw [holds_of_update hupdate]
    constructor
    · rintro (⟨hchanged, current, hnew, htenant, hid⟩ | ⟨hheld, hleft⟩)
      · exact ⟨current, hnew, htenant, .inl ⟨fun he => hchanged (he ▸ hnew).symm, hid⟩⟩
      · obtain ⟨current, hnew, htenant⟩ := hleft previous rfl rfl rfl
        exact ⟨current, hnew, htenant, .inr hheld⟩
    · rintro ⟨current, hnew, htenant, ⟨hchanged, hid⟩ | hheld⟩
      · exact .inl ⟨fun he => hchanged (Option.some.inj (he.trans hnew)).symm, current, hnew, htenant, hid⟩
      · refine .inr ⟨hheld, fun f hf _ _ => ⟨current, hnew, ?_⟩⟩
        rw [htenant, Option.some.inj hf]
  refine ⟨hstays, fun honly current hnew htenant hid => ?_, fun hnone hholds => ?_⟩
  · rw [Bool.eq_false_iff]
    intro hheld
    obtain ⟨f, hf, -, hname⟩ := honly (hstays.2 ⟨current, hnew, htenant, .inr hheld⟩)
    exact hid (Option.some.inj (hnew.symm.trans hf) ▸ hname)
  · obtain ⟨current, hnew, htenant, hlayer⟩ := hstays.1 hholds
    refine ⟨current, hnew, htenant, ?_⟩
    rcases hlayer with ⟨-, hid⟩ | hheld
    · exact hid
    · by_contra hid
      rw [hnone current hnew htenant hid] at hheld
      nomatch hheld

/-- A resource that moves to another tenant under another uid takes its old layer along. -/
theorem updated_layer_stays_iff_moved :
    let a : TenantId := ⟨"a", by decide⟩
    let s : LabelSelector := ⟨"tenant", "kind", "config"⟩
    let resource (uid tenant : String) : Resource := ⟨uid, "r", .ofList [("kind", "config"), ("tenant", tenant)], .empty⟩
    let run := performAll perform (.new (.new 1) s) [⟨.configMap, .added (resource "u" "a"), []⟩]
    run.2.composer.holds a "u" = true ∧ run.2.fragment? .configMap (resource "u" "a") = some ⟨"u", a, .empty⟩ ∧
      ∃ s', run.2.handle .configMap (.updated (resource "u" "a") (resource "v" "b")) [] = .ok (.merged, s') ∧
        s'.composer.holds a "u" = false := by
  intro a s resource run
  have hold : run.2.fragment? .configMap (resource "u" "a") = some ⟨"u", a, .empty⟩ := by decide
  have hnew : run.2.fragment? .configMap (resource "v" "b") = some ⟨"v", ⟨"b", by decide⟩, .empty⟩ := by decide
  obtain ⟨s', hhandle⟩ : ∃ s', run.2.handle .configMap (.updated (resource "u" "a") (resource "v" "b")) [] = .ok (.merged, s') :=
    ⟨_, rfl⟩
  refine ⟨by decide, hold, s', hhandle, Bool.eq_false_iff.2 fun hholds => ?_⟩
  obtain ⟨current, hcurrent, htenant, -⟩ := (updated_layer_stays_iff _ _ _ _ _ _ _ _ hold hhandle).1.1 hholds
  obtain rfl := Option.some.inj (hnew.symm.trans hcurrent)
  exact absurd htenant (by decide)

/-- A resource that was created again under another uid for the same tenant leaves its old layer beside the new one. -/
theorem updated_layer_stays_recreated :
    let a : TenantId := ⟨"a", by decide⟩
    let s : LabelSelector := ⟨"tenant", "kind", "config"⟩
    let resource (uid : String) : Resource := ⟨uid, "r", .ofList [("kind", "config"), ("tenant", "a")], .empty⟩
    let run := performAll perform (.new (.new 1) s) [⟨.configMap, .added (resource "u"), []⟩]
    run.2.fragment? .configMap (resource "u") = some ⟨"u", a, .empty⟩ ∧
      run.2.fragment? .configMap (resource "v") = some ⟨"v", a, .empty⟩ ∧
      ∃ s', run.2.handle .configMap (.updated (resource "u") (resource "v")) [] = .ok (.merged, s') ∧
        s'.composer.holds a "u" = true ∧ s'.composer.holds a "v" = true :=
  ⟨by decide, by decide, _, rfl, by decide, by decide⟩

end Sync

end TenantGateway
