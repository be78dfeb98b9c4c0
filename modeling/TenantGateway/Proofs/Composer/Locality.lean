import TenantGateway.Proofs.Composer.History
import TenantGateway.Proofs.Composer.Whole
import TenantGateway.Proofs.Configuration

/-!
# Merging and revoking are local

A layer that is taken away leaves alone the properties that it does not set (`Configuration.get?_removeLayer`). Merging a fragment
takes its layer away and registers the new one last, revoking it only takes it away; the other layers of the tenant keep their order
and the other tenants their configurations (`Composer.ChangesOnly`). So values change for properties of the fragment and of its
previous layer only, and what a fragment no longer sets falls to the last of the other layers that sets it
(`Composer.run_changes_own_properties`).
-/

namespace TenantGateway

namespace Configuration

variable {c : Configuration} {id key : String}

/-- A layer that is taken away leaves alone the properties that it does not set. -/
theorem get?_removeLayer (hunset : ∀ l ∈ c.layers, l.1 = id → l.2.get? key = none) :
    (c.removeLayer id).get? key = c.get? key := by
  obtain ⟨layers⟩ := c
  induction layers using List.reverseRecOn with
  | nil => rfl
  | append_singleton layers l ih =>
    have hrest := ih fun x hx => hunset x (List.mem_append_left _ hx)
    by_cases hl : l.1 = id
    · have hgone : (⟨layers ++ [l]⟩ : Configuration).removeLayer id = (⟨layers⟩ : Configuration).removeLayer id := by
        simp [removeLayer, Entries.erase, hl]
      rw [hgone, hrest, get?_snoc, hunset l (by simp) hl, Option.none_or]
    · have hkept : (⟨layers ++ [l]⟩ : Configuration).removeLayer id = ⟨Entries.erase layers id ++ [l]⟩ := by
        simp [removeLayer, Entries.erase, hl]
      rw [hkept, get?_snoc, get?_snoc]
      exact congrArg _ hrest

/-- With one layer for each fragment, it is enough that this layer does not set the property. -/
theorem get?_removeLayer_of_layer? (hc : Entries.Distinct c.layers)
    (hunset : ((c.layer? id).bind fun properties => properties.get? key) = none) : (c.removeLayer id).get? key = c.get? key := by
  refine get?_removeLayer fun l hl hid => ?_
  have hlayer : c.layer? id = some l.2 := (Entries.get?_eq_some_iff hc).2 (hid ▸ hl)
  rwa [hlayer, Option.bind_some] at hunset

end Configuration

namespace Composer

/-- The value of a property for a tenant. -/
def value? (c : Composer) (t : TenantId) (key : String) : Option String :=
  (c.configuration? t).bind fun configuration => configuration.get? key

/-- From one composer to the other only the layer of a fragment with a tenant has changed: the tenant has its other layers, in their
order, and every other tenant has its configuration. -/
structure ChangesOnly (c : Composer) (t : TenantId) (id : String) (c' : Composer) : Prop where
  layers : Entries.erase (c'.layersOf t) id = Entries.erase (c.layersOf t) id
  configuration? : ∀ x, x ≠ t → c'.configuration? x = c.configuration? x

variable {c : Composer} {layers : TenantId → List (String × Properties)}

theorem Carries.layersOf (h : c.Carries layers) (t : TenantId) : c.layersOf t = layers t := by
  rw [Composer.layersOf, h.configuration t, Configuration.layers_getD_ofLayers?]

/-- A tenant has the values that its layers give. -/
theorem Carries.value? (h : c.Carries layers) (t : TenantId) (key : String) :
    c.value? t key = (⟨layers t⟩ : Configuration).get? key := by
  rw [Composer.value?, h.configuration t]
  cases layers t <;> rfl

/-- Whoever changes the layers of one tenant, and these up to one of them, changes only this one. -/
theorem Carries.changesOnly (h : c.Carries layers) {c' : Composer} {layers' : TenantId → List (String × Properties)}
    (h' : c'.Carries layers') {t : TenantId} {id : String} (hothers : ∀ x, x ≠ t → layers' x = layers x)
    (herase : Entries.erase (layers' t) id = Entries.erase (layers t) id) : c.ChangesOnly t id c' := by
  refine ⟨by rw [h'.layersOf, h.layersOf, herase], fun x hx => ?_⟩
  rw [h'.configuration x, h.configuration x, hothers x hx]

/-- After a merge the fragment decides about its properties, and the other layers about the rest. -/
theorem Carries.merge_locally (h : c.Carries layers) (f : Fragment) : ∃ c', c.merge f = .ok c' ∧
    (∀ key, c'.value? f.tenant key =
      (f.properties.get? key).or ((⟨Entries.erase (layers f.tenant) f.id⟩ : Configuration).get? key)) ∧
    c.ChangesOnly f.tenant f.id c' := by
  obtain ⟨c', hmerge, -, hcarries⟩ := h.merge f
  refine ⟨c', hmerge, fun key => ?_, h.changesOnly hcarries (fun x hx => if_neg (Ne.symm hx)) ?_⟩
  · rw [hcarries.value?, if_pos rfl]
    exact Configuration.get?_snoc _ _ _
  · rw [if_pos rfl, Entries.erase_file]

/-- After a revoke the other layers decide. -/
theorem Carries.revoke_locally (h : c.Carries layers) (t : TenantId) (id : String) :
    ∃ c', c.revoke t id = .ok ((Entries.get? (layers t) id).isSome, c') ∧
      (∀ key, c'.value? t key = (⟨Entries.erase (layers t) id⟩ : Configuration).get? key) ∧ c.ChangesOnly t id c' := by
  obtain ⟨c', hrevoke, -, hcarries⟩ := h.revoke t id
  refine ⟨c', hrevoke, fun key => ?_, h.changesOnly hcarries (fun x hx => if_neg (Ne.symm hx)) ?_⟩
  · rw [hcarries.value?, if_pos rfl]
  · rw [if_pos rfl, Entries.erase_erase]

/-- After every sequence of merges and revokes on an open composer, merge a fragment or revoke it. Merging gives every property of the
fragment the value that it has there; a property that is neither in the fragment nor in its previous layer keeps its value, and one
that is not in the fragment has the value that the last of the other layers with it gives. Revoking tells whether there was a layer; a
property that is not in it keeps its value, and every property has the value that the last of the other layers with it gives, or none
when none of them has it. Both leave alone the other layers of the tenant, their order included, and all other tenants. -/
theorem run_changes_own_properties (capacity : Nat) (ops : List ComposerOp) (hopen : .close ∉ ops) (t : TenantId) (id : String) :
    let c := after capacity ops
    let previous := Entries.get? (c.layersOf t) id
    let others := Entries.erase (c.layersOf t) id
    (∀ properties, ∃ c', c.merge ⟨id, t, properties⟩ = .ok c' ∧
      (∀ key value, properties.get? key = some value → c'.value? t key = some value) ∧
      (∀ key, properties.get? key = none → (previous.bind fun layer => layer.get? key) = none → c'.value? t key = c.value? t key) ∧
      (∀ key value, properties.get? key = none → (c'.value? t key = some value ↔ Configuration.LastSets others key value)) ∧
      c.ChangesOnly t id c') ∧
    ∃ c', c.revoke t id = .ok (previous.isSome, c') ∧
      (∀ key, (previous.bind fun layer => layer.get? key) = none → c'.value? t key = c.value? t key) ∧
      (∀ key value, c'.value? t key = some value ↔ Configuration.LastSets others key value) ∧
      (∀ key, c'.value? t key = none ↔ ∀ layer ∈ others, layer.2.get? key = none) ∧
      c.ChangesOnly t id c' := by
  intro c previous others
  have hlayers := carries_after capacity hopen
  have hcarries : c.Carries c.layersOf := hlayers.congr fun x => (hlayers.layersOf x).symm
  have hdistinct : Entries.Distinct (c.layersOf t) := hlayers.layersOf t ▸ ComposerOp.distinct_layers t ops
  have hkept : ∀ key, (previous.bind fun layer => layer.get? key) = none →
      (⟨others⟩ : Configuration).get? key = c.value? t key := by
    intro key hunset
    rw [hcarries.value?]
    exact Configuration.get?_removeLayer_of_layer? (c := ⟨c.layersOf t⟩) hdistinct hunset
  constructor
  · intro properties
    obtain ⟨c', hmerge, hvalue, hchanges⟩ := hcarries.merge_locally ⟨id, t, properties⟩
    refine ⟨c', hmerge, fun key value hset => ?_, fun key hnew hold => ?_, fun key value hnew => ?_, hchanges⟩
    · rw [hvalue, hset]
      rfl
    · rw [hvalue, hnew, Option.none_or]
      exact hkept key hold
    · rw [hvalue, hnew, Option.none_or]
      exact Configuration.get?_eq_some_iff
  · obtain ⟨c', hrevoke, hvalue, hchanges⟩ := hcarries.revoke_locally t id
    refine ⟨c', hrevoke, fun key hold => ?_, fun key value => ?_, fun key => ?_, hchanges⟩
    · rw [hvalue]
      exact hkept key hold
    · rw [hvalue]
      exact Configuration.get?_eq_some_iff
    · rw [hvalue]
      exact Configuration.get?_eq_none_iff

/-- A fragment below another is merged again without one of the properties that they share. The other one that they share goes over to
it, since it stands last now, and the one that it has lost is the other's. Revoked, it leaves the other's values. -/
theorem run_changes_own_properties_shared :
    let a : TenantId := ⟨"a", by decide⟩
    let lower : Properties := .ofList [("x", "1"), ("y", "1"), ("z", "1")]
    let upper : Properties := .ofList [("x", "2"), ("y", "2")]
    let again : Properties := .ofList [("x", "3")]
    let ops : List ComposerOp := [.merge ⟨"u", a, lower⟩, .merge ⟨"v", a, upper⟩]
    let c := after 1 ops
    .close ∉ ops ∧ c.value? a "x" = some "2" ∧
      (∃ c', c.merge ⟨"u", a, again⟩ = .ok c' ∧
        c'.value? a "x" = some "3" ∧ c'.value? a "y" = some "2" ∧ c'.value? a "z" = none ∧ c.ChangesOnly a "u" c') ∧
      ∃ c', c.revoke a "u" = .ok (true, c') ∧ c'.value? a "x" = some "2" ∧ c'.value? a "z" = none ∧ c.ChangesOnly a "u" c' := by
  intro a lower upper again ops c
  have hopen : .close ∉ ops := by decide
  obtain ⟨hmerge, c₂, hrevoke, -, hlast, hnone, hothers⟩ := run_changes_own_properties 1 ops hopen a "u"
  obtain ⟨c₁, hmerged, hset, -, hfell, hchanges⟩ := hmerge again
  have hheld : (Entries.get? (c.layersOf a) "u").isSome = true := by decide
  rw [hheld] at hrevoke
  have hunset : Configuration.get? ⟨Entries.erase (c.layersOf a) "u"⟩ "z" = none := by decide
  have hupper : Configuration.LastSets (Entries.erase (c.layersOf a) "u") "x" "2" := Configuration.get?_eq_some_iff.1 (by decide)
  have hshared : Configuration.LastSets (Entries.erase (c.layersOf a) "u") "y" "2" := Configuration.get?_eq_some_iff.1 (by decide)
  refine ⟨hopen, by decide, ⟨c₁, hmerged, hset "x" "3" (by decide), (hfell "y" "2" (by decide)).2 hshared, ?_, hchanges⟩,
    c₂, hrevoke, (hlast "x" "2").2 hupper, (hnone "z").2 (Configuration.get?_eq_none_iff.1 hunset), hothers⟩
  refine Option.eq_none_iff_forall_ne_some.2 fun value hvalue => ?_
  have hlasts := (hfell "z" value (by decide)).1 hvalue
  rw [← Configuration.get?_eq_some_iff, hunset] at hlasts
  nomatch hlasts

end Composer

end TenantGateway
