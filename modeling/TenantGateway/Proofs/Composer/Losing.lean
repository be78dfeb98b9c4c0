import TenantGateway.Proofs.Composer.History
import TenantGateway.Proofs.Composer.Whole
import TenantGateway.Proofs.Metrics

/-!
# Merging and revoking by what they leave

Calls that only revoke take the layer of one fragment from some tenants, each of which held it: the other layers stay in their order,
and every loss publishes one change about its tenant and is counted once (`Composer.Loses`). Losses add up (`Loses.trans`), and the
tenants are those that hold the layer before and not after (`Loses.losers_perm`). A merge files one layer and publishes one change
(`Composer.layersOf_of_merge`, `Composer.published_of_merge`).
-/

namespace TenantGateway

namespace Composer

/-- The tenants that hold a layer of the fragment in one composer and none in the other, in ascending order. -/
def losers (c : Composer) (id : String) (c' : Composer) : List TenantId :=
  c.tenants.filter fun t => c.holds t id && !c'.holds t id

variable {c c' c'' : Composer} {t : TenantId} {id : String} {tenants : List TenantId}

/-- A tenant holds the layers that it has. -/
theorem holds_eq_isSome (c : Composer) (t : TenantId) (id : String) : c.holds t id = (Entries.get? (c.layersOf t) id).isSome := by
  rw [holds_eq, layersOf]
  cases c.configuration? t <;> rfl

/-- The losers of a layer are the tenants that held it and no longer do. -/
theorem mem_losers : t ∈ c.losers id c' ↔ c.holds t id = true ∧ c'.holds t id = false := by
  rw [losers, List.mem_filter, Bool.and_eq_true, Bool.not_eq_true']
  exact ⟨And.right, fun h => ⟨mem_tenants_of_holds h.1, h⟩⟩

theorem nodup_losers (c : Composer) (id : String) (c' : Composer) : (c.losers id c').Nodup :=
  (nodup_tenants c).filter _

/-- A call adds one to its own count. -/
theorem count_recorded (c : Composer) (metric : Metric) (feed : Feed TenantId Configuration) {m : Metric} (hm : m ≠ .tenants) :
    (c.recorded metric feed).metrics.count m = c.metrics.count m + if metric = m then 1 else 0 := by
  rw [recorded, Metrics.count_set_of_ne hm.symm, Metrics.count_increment]

/-! ## Revoking -/

/-- From one composer to the other the tenants listed have lost the layer of a fragment, and nothing else has changed but what
tells so. -/
structure Loses (c : Composer) (id : String) (tenants : List TenantId) (c' : Composer) : Prop where
  held : ∀ t ∈ tenants, c.holds t id = true
  nodup : tenants.Nodup
  layers : ∀ t, c'.layersOf t = if t ∈ tenants then Entries.erase (c.layersOf t) id else c.layersOf t
  published : ∃ changes, c'.feed.published = c.feed.published ++ changes ∧ changes.map Change.key? = tenants.map some
  counted : c'.metrics.count .revokes = c.metrics.count .revokes + tenants.length
  merges : c'.metrics.count .merges = c.metrics.count .merges

theorem Loses.refl (c : Composer) (id : String) : c.Loses id [] c where
  held _ ht := nomatch ht
  nodup := List.nodup_nil
  layers _ := rfl
  published := ⟨[], (List.append_nil _).symm, rfl⟩
  counted := rfl
  merges := rfl

/-- Who holds which layers after a loss. -/
theorem Loses.holds (h : c.Loses id tenants c') (t : TenantId) (x : String) :
    c'.holds t x = if t ∈ tenants ∧ id = x then false else c.holds t x := by
  rw [holds_eq_isSome, h.layers, holds_eq_isSome]
  by_cases ht : t ∈ tenants
  · rw [if_pos ht, Entries.get?_erase]
    by_cases hx : id = x <;> simp [ht, hx]
  · rw [if_neg ht, if_neg fun hboth => ht hboth.1]

/-- Whoever loses a layer later has not lost it before. -/
theorem Loses.trans {more : List TenantId} (h : c.Loses id tenants c') (h' : c'.Loses id more c'') :
    c.Loses id (tenants ++ more) c'' := by
  have hlater : ∀ t ∈ more, t ∉ tenants ∧ c.holds t id = true := by
    intro t ht
    have hheld := h'.held t ht
    rw [h.holds] at hheld
    split at hheld
    · nomatch hheld
    · rename_i hnot
      exact ⟨fun hmem => hnot ⟨hmem, rfl⟩, hheld⟩
  refine ⟨fun t ht => ?_, ?_, fun t => ?_, ?_, ?_, h'.merges.trans h.merges⟩
  · rcases List.mem_append.1 ht with ht | ht
    · exact h.held t ht
    · exact (hlater t ht).2
  · refine List.nodup_append.2 ⟨h.nodup, h'.nodup, ?_⟩
    rintro t ht x hx rfl
    exact (hlater t hx).1 ht
  · rw [h'.layers, h.layers]
    by_cases hmore : t ∈ more
    · simp [hmore, (hlater t hmore).1]
    · simp [hmore]
  · obtain ⟨changes, hpublished, hkeys⟩ := h.published
    obtain ⟨changes', hpublished', hkeys'⟩ := h'.published
    refine ⟨changes ++ changes', ?_, ?_⟩
    · rw [hpublished', hpublished, List.append_assoc]
    · rw [List.map_append, List.map_append, hkeys, hkeys']
  · rw [h'.counted, h.counted, List.length_append, Nat.add_assoc]

/-- As many changes are published as layers are lost. -/
theorem Loses.exists_published (h : c.Loses id tenants c') :
    ∃ changes, c'.feed.published = c.feed.published ++ changes ∧ changes.length = tenants.length := by
  obtain ⟨changes, hpublished, hkeys⟩ := h.published
  have hlength := congrArg List.length hkeys
  rw [List.length_map, List.length_map] at hlength
  exact ⟨changes, hpublished, hlength⟩

/-- A loss leaves the layers of other fragments alone. -/
theorem Loses.erase_layers (h : c.Loses id tenants c') (t : TenantId) :
    Entries.erase (c'.layersOf t) id = Entries.erase (c.layersOf t) id := by
  rw [h.layers]
  split
  · exact Entries.erase_erase _ _
  · rfl

/-- Who loses the layer can be told from who holds it before and after. -/
theorem Loses.losers_perm (h : c.Loses id tenants c') : (c.losers id c').Perm tenants := by
  refine (List.perm_ext_iff_of_nodup (nodup_losers c id c') h.nodup).2 fun t => ?_
  rw [mem_losers, h.holds]
  by_cases ht : t ∈ tenants
  · simp [ht, h.held t ht]
  · simp [ht]

/-- Revoking that is not refused takes the layer from the tenant if it answers that there was one, and else changes nothing. -/
theorem loses_revoke {any : Bool} (h : c.revoke t id = .ok (any, c')) : c.Loses id (if any then [t] else []) c' := by
  rcases revoke_cases h with ⟨rfl, -, rfl⟩ | ⟨rfl, hholds, configuration, hconf, rfl⟩
  · exact .refl c' id
  refine ⟨by simpa using hholds, by simp, fun x => ?_, ?_, count_recorded c .revokes _ (by decide),
    count_recorded c .revokes _ (by decide)⟩
  · rw [layersOf, configuration?_publishRest]
    by_cases hx : t = x
    · rw [if_pos hx, Configuration.layers_getD_ofLayers?, ← hx, layersOf, hconf]
      simp [Configuration.removeLayer]
    · rw [if_neg hx, if_neg (by simpa using Ne.symm hx)]
      rfl
  · cases (configuration.removeLayer id).isEmpty with
    | true => exact ⟨[.remove t configuration], rfl, rfl⟩
    | false => exact ⟨[.put t (configuration.removeLayer id)], rfl, rfl⟩

/-- Revoking from several tenants that is not refused takes the layer from each of them. -/
theorem loses_revokeAll (h : c.revokeAll id tenants = .ok c') (hnodup : tenants.Nodup)
    (hheld : ∀ t ∈ tenants, c.holds t id = true) : c.Loses id tenants c' := by
  induction tenants generalizing c with
  | nil =>
    obtain rfl := Except.ok.inj h
    exact .refl c id
  | cons t tenants ih =>
    obtain ⟨⟨any, middle⟩, hrevoke, hrest⟩ := bind_eq_ok.1 h
    obtain ⟨hnot, hnodup⟩ := List.nodup_cons.1 hnodup
    obtain ⟨hany, hholds⟩ := holds_of_revoke hrevoke
    rw [hheld t List.mem_cons_self] at hany
    have hfirst : c.Loses id [t] middle := by
      have hloses := loses_revoke hrevoke
      rwa [hany] at hloses
    refine hfirst.trans (ih hrest hnodup fun x hx => ?_)
    rw [hholds, if_neg fun hboth : t = x ∧ id = id => hnot (hboth.1 ▸ hx)]
    exact hheld x (List.mem_cons_of_mem t hx)

/-- Revoking from the owners takes the layer from all of them. -/
theorem loses_revokeAll_owners {order : List TenantId} (h : c.revokeAll id (c.owners id order) = .ok c') :
    c.Loses id (c.owners id order) c' :=
  loses_revokeAll h (c.nodup_owners id order) fun _ ht => mem_owners.1 ht

/-! ## Merging -/

/-- A merge that is not refused files the layer with the tenant of the fragment. -/
theorem layersOf_of_merge {f : Fragment} (h : c.merge f = .ok c') (t : TenantId) :
    c'.layersOf t = if f.tenant = t then Entries.file (c.layersOf t) f.id f.properties else c.layersOf t := by
  rw [layersOf, configuration?_of_merge h]
  split <;> rfl

/-- A merge leaves the layers of other fragments alone. -/
theorem erase_layersOf_of_merge {f : Fragment} (h : c.merge f = .ok c') (t : TenantId) :
    Entries.erase (c'.layersOf t) f.id = Entries.erase (c.layersOf t) f.id := by
  rw [layersOf_of_merge h]
  split
  · exact Entries.erase_file _ _ _
  · rfl

/-- A merge that is not refused publishes one change, about the tenant of the fragment. -/
theorem published_of_merge {f : Fragment} (h : c.merge f = .ok c') :
    ∃ change, c'.feed.published = c.feed.published ++ [change] ∧ change.key? = some f.tenant := by
  rw [← Except.ok.inj ((merge_of_open (isOpen_of_merge h) f).symm.trans h)]
  exact ⟨.put f.tenant _, rfl, rfl⟩

end Composer

end TenantGateway
