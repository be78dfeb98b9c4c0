import TenantGateway.Proofs.Composer.Layers
import TenantGateway.Proofs.Sync
import TenantGateway.Sync.Effect

/-!
# Handling an event does what its effect says

On an open composer no event is refused. What it does and the layers that it leaves are told by the layers of its own resource
(`Sync.does_handle`); those of other resources stay as they are.
-/

namespace TenantGateway

namespace Sync

/-- Handling an event succeeded with an outcome: the labels looked for are the same, and the tenants have the layers given. -/
def Does (s : Sync) (result : Except FeedError (SyncOutcome × Sync)) (outcome : SyncOutcome)
    (layer : TenantId → String → Option Properties) (bare : TenantId → Prop) : Prop :=
  ∃ s', result = .ok (outcome, s') ∧ s'.selector = s.selector ∧ s'.composer.HasLayers layer bare

variable {s : Sync} {layer : TenantId → String → Option Properties} {bare : TenantId → Prop}

theorem Does.congr {result : Except FeedError (SyncOutcome × Sync)} {outcome outcome' : SyncOutcome}
    (h : s.Does result outcome layer bare) (ho : outcome = outcome') {layer' : TenantId → String → Option Properties}
    {bare' : TenantId → Prop} (hl : ∀ t id, layer t id = layer' t id) (hb : ∀ t, bare t ↔ bare' t) :
    s.Does result outcome' layer' bare' := by
  obtain ⟨s', hresult, hs, hc⟩ := h
  exact ⟨s', ho ▸ hresult, hs, hc.congr hl hb⟩

/-- Merging a fragment gives its tenant the layer. -/
theorem does_merge (h : s.composer.HasLayers layer bare) (f : Fragment) : s.Does (s.merge f) .merged
    (fun t id => if f.tenant = t ∧ f.id = id then some f.properties else layer t id) fun t => f.tenant ≠ t ∧ bare t := by
  obtain ⟨composer, hmerge, hc⟩ := h.merge f
  exact ⟨s.withComposer composer, by rw [merge, hmerge]; rfl, rfl, hc⟩

/-- A withdrawal takes the layer from every tenant, and is skipped when there is none. -/
theorem does_withdraw (h : s.composer.HasLayers layer bare) (kind : ResourceKind) {uid : String} (order : List TenantId) {held : Bool}
    (hheld : held = true ↔ ∃ t, (layer t uid).isSome = true) :
    s.Does (s.withdraw kind uid order) (if held then .revoked else .skipped)
      (fun t id => if uid = id then none else layer t id) bare := by
  obtain ⟨composer, hrevoke, hc⟩ := h.revokeAll_owners uid order
  have hnone : s.composer.owners uid order = [] ↔ held = false := by
    rw [h.owners_eq_nil_iff, ← Bool.not_eq_true, hheld]
    simp
  cases howners : s.composer.owners uid order with
  | nil =>
    rw [howners] at hrevoke
    obtain rfl := Except.ok.inj hrevoke
    exact ⟨(s.skip kind).2, by rw [withdraw, howners, hnone.1 howners]; rfl, rfl, hc⟩
  | cons t tenants =>
    have hsome : held = true := by
      rw [← Bool.not_eq_false, ← hnone, howners]
      simp
    rw [howners] at hrevoke
    refine ⟨s.withComposer composer, ?_, rfl, hc⟩
    rw [withdraw, howners, hsome]
    dsimp only
    rw [hrevoke]
    rfl

variable {kind : ResourceKind} {uid : String}

/-- Revoking the layer of a resource takes it from one tenant. -/
theorem revoke_fragment (h : s.composer.HasLayers layer bare) {f : Fragment} (hid : f.id = uid) : ∃ any composer,
    s.composer.revoke f.tenant f.id = .ok (any, composer) ∧
      composer.HasLayers (fun t id => if uid = id then if f.tenant = t then none else layer t uid else layer t id) bare := by
  obtain ⟨composer, hrevoke, hc⟩ := h.revoke f.tenant f.id
  refine ⟨_, composer, hrevoke, hc.congr (fun t id => ?_) fun _ => Iff.rfl⟩
  by_cases he : uid = id
  · by_cases ht : f.tenant = t <;> simp [hid, he, ht]
  · simp [hid, he]

/-- Merging a fragment of a resource leaves its layer to the tenant of the fragment, and to the others what they had. -/
theorem does_merge_fragment (h : s.composer.HasLayers layer bare) {f : Fragment} (hid : f.id = uid) : s.Does (s.merge f) .merged
    (fun t id => if uid = id then Fragment.layerOr (some f) t (layer t uid) else layer t id) fun t => f.tenant ≠ t ∧ bare t := by
  refine (does_merge h f).congr rfl (fun t id => ?_) fun _ => Iff.rfl
  by_cases he : uid = id <;> by_cases ht : f.tenant = t <;> simp [Fragment.layerOr, hid, he, ht]

/-- An update takes the layer of its resource from the tenant of the previous fragment and gives one to that of the current. -/
theorem does_update (h : s.composer.HasLayers layer bare) {previous current : Option Fragment}
    (hprevious : ∀ f, previous = some f → f.id = uid) (hcurrent : ∀ f, current = some f → f.id = uid) :
    s.Does (s.update kind previous current)
      (if previous = current then if current.isSome then .suppressed else .skipped
        else if current.isSome then .merged else .revoked)
      (fun t id => if uid = id then
        if previous = current then layer t uid
        else Fragment.layerOr current t (if previous.map (·.tenant) = some t then none else layer t uid) else layer t id)
      (fun t => (∀ f, (if previous = current then none else current) = some f → f.tenant ≠ t) ∧ bare t) := by
  have hkept : ∀ t id, layer t id = if uid = id then layer t uid else layer t id := by
    intro t id
    split
    · rename_i he
      rw [he]
    · rfl
  cases previous with
  | none =>
    cases current with
    | none => exact ⟨(s.skip kind).2, rfl, rfl, h.congr (by simp) (by simp)⟩
    | some f => exact (does_merge_fragment h (hcurrent f rfl)).congr (by simp) (by simp) (by simp)
  | some p =>
    obtain ⟨any, composer, hrevoke, hc⟩ := revoke_fragment h (hprevious p rfl)
    cases current with
    | none => exact ⟨s.withComposer composer, by rw [update, hrevoke]; rfl, rfl, hc.congr (by simp [Fragment.layerOr]) (by simp)⟩
    | some f =>
      rw [update]
      by_cases hpf : p = f
      · rw [if_pos hpf]
        exact ⟨(s.suppress kind).2, by simp [hpf]; rfl, rfl, h.congr (by simp [hpf]) (by simp [hpf])⟩
      · rw [if_neg hpf]
        by_cases ht : p.tenant = f.tenant
        · rw [if_pos ht]
          refine (does_merge_fragment h (hcurrent f rfl)).congr (by simp [hpf]) (fun t id => ?_) (by simp [hpf])
          by_cases hft : f.tenant = t <;> simp [Fragment.layerOr, hpf, ht, hft]
        · rw [if_neg ht, hrevoke]
          obtain ⟨s', hmerge, hs, hlayers⟩ := does_merge_fragment (s := s.withComposer composer) hc (hcurrent f rfl)
          refine ⟨s', ?_, hs, hlayers.congr (fun t id => ?_) (by simp [hpf])⟩
          · rw [if_neg (fun he => hpf (Option.some.inj he))]
            exact hmerge
          · by_cases he : uid = id <;> simp [hpf, he]

/-- A deletion takes the layer from the tenant that the final labels name, when that tenant has one, else from every tenant. -/
theorem does_delete (h : s.composer.HasLayers layer bare) (r : Resource) (order : List TenantId) {held : Bool}
    (hheld : held = true ↔ ∃ t, (layer t r.uid).isSome = true) :
    s.Does (s.delete kind r order) (if held then .revoked else .skipped)
      (fun t id => if r.uid = id then
        match s.selector.identify r with
        | some (named, _) => if named ≠ t ∧ (layer named r.uid).isSome then layer t r.uid else none
        | none => none
        else layer t id) bare := by
  rw [delete]
  cases hid : s.selector.identify r with
  | none => exact does_withdraw h kind order hheld
  | some identity =>
    obtain ⟨named, id⟩ := identity
    obtain rfl := LabelSelector.identify_uid hid
    obtain ⟨composer, hrevoke, hc⟩ := h.revoke named r.uid
    dsimp only
    rw [hrevoke]
    cases hlayer : layer named r.uid with
    | some properties =>
      have hsome : held = true := hheld.2 ⟨named, by rw [hlayer]; rfl⟩
      refine ⟨s.withComposer composer, by rw [hsome]; rfl, rfl, hc.congr (fun t id => ?_) fun _ => Iff.rfl⟩
      by_cases he : r.uid = id <;> by_cases ht : named = t <;> simp [he, ht]
    | none =>
      have hsame : ∀ t id, (if named = t ∧ r.uid = id then none else layer t id) = layer t id := by
        intro t id
        split
        · rename_i hboth
          rw [← hboth.1, ← hboth.2, hlayer]
        · rfl
      refine (does_withdraw (s := s.withComposer composer) (hc.congr hsame fun _ => Iff.rfl) kind order hheld).congr rfl
        (fun t id => ?_) fun _ => Iff.rfl
      simp

/-- On an open composer every event is handled: it does what its effect says, leaves its resource the layers that its effect says,
and leaves the layers of other resources alone. -/
theorem does_handle (h : s.composer.HasLayers layer bare) {e : ResourceEvent} (huid : e.KeepsUid) (order : List TenantId) {held : Bool}
    (hheld : held = true ↔ ∃ t, (layer t e.uid).isSome = true) :
    s.Does (s.handle kind e order) (e.outcome s.selector kind held)
      (fun t id => if e.uid = id then e.leavesLayer s.selector kind (fun x => layer x e.uid) t else layer t id)
      (fun t => (∀ f, e.merged? s.selector kind = some f → f.tenant ≠ t) ∧ bare t) := by
  cases e with
  | added r =>
    rw [handle, fragment?]
    cases hf : s.selector.fragment? kind r with
    | none => exact ⟨(s.skip kind).2, by simp [ResourceEvent.outcome, hf, skip], rfl,
        h.congr (by simp [ResourceEvent.leavesLayer, hf, Fragment.layerOr]) (by simp [ResourceEvent.merged?, hf])⟩
    | some f =>
      refine (does_merge_fragment h (LabelSelector.fragment?_eq_some hf).1).congr ?_ (fun t id => ?_) fun t => ?_
      · simp [ResourceEvent.outcome, hf]
      · simp [ResourceEvent.leavesLayer, ResourceEvent.uid, hf]
      · simp [ResourceEvent.merged?, hf]
  | updated old new =>
    have hcurrent : ∀ f, s.selector.fragment? kind new = some f → f.id = new.uid :=
      fun f hf => (LabelSelector.fragment?_eq_some hf).1
    have hprevious : ∀ f, s.selector.fragment? kind old = some f → f.id = new.uid :=
      fun f hf => (LabelSelector.fragment?_eq_some hf).1.trans huid
    exact does_update h hprevious hcurrent
  | deleted r unknown =>
    exact (does_delete h r order hheld).congr rfl (fun _ _ => rfl) (by simp [ResourceEvent.merged?])

/-- An open composer refuses no event about one resource. -/
theorem exists_handle (h : s.composer.feed.closed = false) (kind : ResourceKind) {e : ResourceEvent} (huid : e.KeepsUid)
    (order : List TenantId) : ∃ outcome s', s.handle kind e order = .ok (outcome, s') := by
  obtain ⟨held, hheld⟩ : ∃ held : Bool, held = true ↔
      ∃ t, ((s.composer.configuration? t).bind fun configuration => configuration.layer? e.uid).isSome = true := by
    classical exact ⟨decide _, decide_eq_true_iff⟩
  obtain ⟨s', hhandle, -⟩ : s.Does (s.handle kind e order) _ _ _ := does_handle (Composer.hasLayers_of_open h) huid order hheld
  exact ⟨_, s', hhandle⟩

end Sync

end TenantGateway
