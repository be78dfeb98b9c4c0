import TenantGateway.Proofs.Composer.History

/-!
# Layers in whatever order

An open composer is described by the layers that its tenants have, whatever their order, and by the tenants that have a configuration
without layers, whom no merge has ever given one (`Composer.HasLayers`). Merging gives one tenant one layer, revoking takes one
(`HasLayers.merge`, `HasLayers.revoke`).
-/

namespace TenantGateway

namespace Configuration

/-- No layers make the configuration without layers. -/
theorem ofLayers?_ne_empty (layers : List (String × Properties)) : ofLayers? layers ≠ some .empty := by
  cases layers <;> simp [ofLayers?, Configuration.empty]

/-- A configuration with a layer is not without layers. -/
theorem ne_empty_of_layer? {c : Configuration} {id : String} {properties : Properties} (h : c.layer? id = some properties) :
    c ≠ .empty := by
  rintro rfl
  nomatch h

/-- A configuration without a layer under any name is without layers. -/
theorem eq_empty_of_layer? {c : Configuration} (h : ∀ id, c.layer? id = none) : c = .empty := by
  obtain ⟨_ | ⟨l, layers⟩⟩ := c
  · rfl
  · have hfirst := h l.1
    simp [layer?] at hfirst

end Configuration

namespace Composer

/-- The composer is open, its tenants have the layers given, and those tenants have a configuration without layers that are `bare`. -/
structure HasLayers (c : Composer) (layer : TenantId → String → Option Properties) (bare : TenantId → Prop) : Prop where
  isOpen : c.feed.closed = false
  layer? : ∀ t id, ((c.configuration? t).bind fun configuration => configuration.layer? id) = layer t id
  bare : ∀ t, c.configuration? t = some .empty ↔ bare t

variable {c : Composer} {layer : TenantId → String → Option Properties} {bare : TenantId → Prop}

/-- An open composer has the layers that it has. -/
theorem hasLayers_of_open (h : c.feed.closed = false) :
    c.HasLayers (fun t id => (c.configuration? t).bind fun configuration => configuration.layer? id)
      fun t => c.configuration? t = some .empty :=
  ⟨h, fun _ _ => rfl, fun _ => Iff.rfl⟩

theorem HasLayers.congr (h : c.HasLayers layer bare) {layer' : TenantId → String → Option Properties} {bare' : TenantId → Prop}
    (hl : ∀ t id, layer t id = layer' t id) (hb : ∀ t, bare t ↔ bare' t) : c.HasLayers layer' bare' :=
  ⟨h.isOpen, fun t id => (h.layer? t id).trans (hl t id), fun t => (h.bare t).trans (hb t)⟩

/-- A tenant holds the layers that it has. -/
theorem HasLayers.holds (h : c.HasLayers layer bare) (t : TenantId) (id : String) : c.holds t id = (layer t id).isSome := by
  rw [holds_eq, h.layer?]

/-- The tenants are those that have a layer and those that have a configuration without layers. -/
theorem HasLayers.mem_tenants (h : c.HasLayers layer bare) {t : TenantId} :
    t ∈ c.tenants ↔ bare t ∨ ∃ id, (layer t id).isSome = true := by
  have hkeys : t ∈ c.tenants ↔ ∃ configuration, c.configuration? t = some configuration := c.feed.entries.mem_keys
  rw [hkeys, ← h.bare t]
  simp only [← h.layer? t]
  cases hconf : c.configuration? t with
  | none => simp
  | some configuration =>
    refine ⟨fun _ => ?_, fun _ => ⟨configuration, rfl⟩⟩
    by_cases hall : ∀ id, configuration.layer? id = none
    · exact Or.inl (congrArg some (Configuration.eq_empty_of_layer? hall))
    · obtain ⟨id, hid⟩ := not_forall.1 hall
      exact Or.inr ⟨id, Option.isSome_iff_ne_none.2 hid⟩

/-- Merging gives the tenant of the fragment its layer. -/
theorem HasLayers.merge (h : c.HasLayers layer bare) (f : Fragment) : ∃ c', c.merge f = .ok c' ∧
    c'.HasLayers (fun t id => if f.tenant = t ∧ f.id = id then some f.properties else layer t id)
      fun t => f.tenant ≠ t ∧ bare t := by
  have hmerge := merge_of_open h.isOpen f
  have hfiled : ∀ id, (((c.configuration? f.tenant).getD .empty).insertLayer f.id f.properties).layer? id =
      if f.id = id then some f.properties else layer f.tenant id := by
    intro id
    rw [← h.layer? f.tenant id]
    cases c.configuration? f.tenant <;> exact Entries.get?_file _ _ _ _
  refine ⟨_, hmerge, h.isOpen, fun t id => ?_, fun t => ?_⟩
  · rw [configuration?_publishPut]
    by_cases ht : f.tenant = t
    · rw [if_pos ht, Option.bind_some, hfiled, ht]
      simp
    · rw [if_neg ht, h.layer?, if_neg fun hboth => ht hboth.1]
  · rw [configuration?_publishPut]
    by_cases ht : f.tenant = t
    · have hne : ((c.configuration? f.tenant).getD .empty).insertLayer f.id f.properties ≠ .empty :=
        Configuration.ne_empty_of_layer? ((hfiled f.id).trans (if_pos rfl))
      rw [if_pos ht, Option.some.injEq]
      exact iff_of_false hne fun hboth => hboth.1 ht
    · rw [if_neg ht, h.bare]
      exact (and_iff_right ht).symm

/-- Revoking takes the layer from the tenant, and tells whether there was one. -/
theorem HasLayers.revoke (h : c.HasLayers layer bare) (t : TenantId) (id : String) :
    ∃ c', c.revoke t id = .ok ((layer t id).isSome, c') ∧
      c'.HasLayers (fun x y => if t = x ∧ id = y then none else layer x y) bare := by
  have hrevoke := revoke_of_open h.isOpen t id
  have hlayer := h.layer? t id
  have hnothing : layer t id = none →
      c.HasLayers (fun x y => if t = x ∧ id = y then none else layer x y) bare := by
    intro hnone
    refine h.congr (fun x y => ?_) fun _ => Iff.rfl
    split
    · rename_i hxy
      rw [← hxy.1, ← hxy.2, hnone]
    · rfl
  cases hconf : c.configuration? t with
  | none =>
    rw [hconf] at hrevoke hlayer
    have hnone : layer t id = none := hlayer.symm
    exact ⟨c, hnone ▸ hrevoke, hnothing hnone⟩
  | some configuration =>
    rw [hconf] at hrevoke hlayer
    rw [Option.bind_some] at hlayer
    cases hget : configuration.layer? id with
    | none =>
      have hnone : layer t id = none := hlayer.symm.trans hget
      refine ⟨c, ?_, hnothing hnone⟩
      rw [hrevoke, hnone]
      simp [hget]
    | some properties =>
      have hsome : layer t id = some properties := hlayer.symm.trans hget
      simp only [hget, Option.isNone_some, Bool.false_eq_true, if_false] at hrevoke
      refine ⟨_, by rw [hsome]; exact hrevoke, ?_, fun x y => ?_, fun x => ?_⟩
      · cases (configuration.removeLayer id).isEmpty <;> exact h.isOpen
      · rw [configuration?_publishRest]
        by_cases hx : t = x
        · rw [if_pos hx, Configuration.layer?_ofLayers?, Configuration.removeLayer, Entries.get?_erase, ← hx, ← h.layer? t y, hconf]
          simp [Configuration.layer?]
        · rw [if_neg hx, h.layer?, if_neg fun hboth => hx hboth.1]
      · rw [configuration?_publishRest]
        by_cases hx : t = x
        · have hbare : ¬bare t := by
            rw [← h.bare t, hconf, Option.some.injEq]
            exact Configuration.ne_empty_of_layer? hget
          rw [if_pos hx, ← hx]
          exact iff_of_false (Configuration.ofLayers?_ne_empty _) hbare
        · rw [if_neg hx]
          exact h.bare x

/-- Revoking from several tenants takes the layer from each of them. -/
theorem HasLayers.revokeAll (h : c.HasLayers layer bare) (id : String) (tenants : List TenantId) :
    ∃ c', c.revokeAll id tenants = .ok c' ∧
      c'.HasLayers (fun x y => if x ∈ tenants ∧ id = y then none else layer x y) bare := by
  induction tenants generalizing c layer with
  | nil => exact ⟨c, rfl, h.congr (fun x y => by simp) fun _ => Iff.rfl⟩
  | cons t tenants ih =>
    obtain ⟨c', hrevoke, hc'⟩ := h.revoke t id
    obtain ⟨c'', hrest, hc''⟩ := ih hc'
    refine ⟨c'', ?_, hc''.congr (fun x y => ?_) fun _ => Iff.rfl⟩
    · rw [Composer.revokeAll, hrevoke]
      exact hrest
    · by_cases hx : t = x
      · by_cases hmem : x ∈ tenants <;> by_cases hy : id = y <;> simp [hx, hmem, hy]
      · have hx' : x ≠ t := fun he => hx he.symm
        by_cases hmem : x ∈ tenants <;> simp [hx, hx', hmem]

/-- Revoking from the owners takes the layer from every tenant. -/
theorem HasLayers.revokeAll_owners (h : c.HasLayers layer bare) (id : String) (order : List TenantId) :
    ∃ c', c.revokeAll id (c.owners id order) = .ok c' ∧ c'.HasLayers (fun x y => if id = y then none else layer x y) bare := by
  obtain ⟨c', hrevoke, hc'⟩ := h.revokeAll id (c.owners id order)
  refine ⟨c', hrevoke, hc'.congr (fun x y => ?_) fun _ => Iff.rfl⟩
  by_cases hy : id = y
  · by_cases hmem : x ∈ c.owners id order
    · simp [hy, hy ▸ hmem]
    · have hnone : layer x id = none := by
        rw [mem_owners, h.holds, Option.not_isSome_iff_eq_none] at hmem
        exact hmem
      simp [← hy, hnone]
  · simp [hy]

/-- There is an owner exactly when some tenant has the layer. -/
theorem HasLayers.owners_eq_nil_iff (h : c.HasLayers layer bare) {id : String} {order : List TenantId} :
    c.owners id order = [] ↔ ∀ t, layer t id = none := by
  rw [List.eq_nil_iff_forall_not_mem]
  refine forall_congr' fun t => ?_
  rw [mem_owners, h.holds, Option.not_isSome_iff_eq_none]

/-- Two composers hold the same layers: they have the same tenants, every fragment has the same owners, whatever the order in which
either lists them, and the tenants have the same properties under every id. Only the order of layers may differ. -/
structure SameLayers (c c' : Composer) : Prop where
  tenants : c.tenants = c'.tenants
  owners : ∀ id order order', (c.owners id order).Perm (c'.owners id order')
  layer? : ∀ t id, ((c.configuration? t).bind fun configuration => configuration.layer? id) =
    (c'.configuration? t).bind fun configuration => configuration.layer? id

/-- Two composers with the same layers are alike. -/
theorem HasLayers.sameLayers (h : c.HasLayers layer bare) {c' : Composer} (h' : c'.HasLayers layer bare) : c.SameLayers c' := by
  refine ⟨?_, fun id order order' => ?_, fun t id => (h.layer? t id).trans (h'.layer? t id).symm⟩
  · refine eq_of_ascending c.feed.entries.keys_pairwise c'.feed.entries.keys_pairwise fun t => ?_
    exact h.mem_tenants.trans h'.mem_tenants.symm
  · refine (List.perm_ext_iff_of_nodup (c.nodup_owners id order) (c'.nodup_owners id order')).2 fun t => ?_
    rw [mem_owners, mem_owners, h.holds, h'.holds]

end Composer

end TenantGateway
