import Mathlib.Data.Finset.Card
import TenantGateway.Proofs.Composer.Losing

/-!
# What a composer meters

Every merge is counted once, and every layer that revokes take is counted once (`Composer.Meters`). Whenever a configuration changes,
the number of tenants is set anew (`Writes.tenants_metered`).
-/

namespace TenantGateway

namespace Composer

variable {c c' c'' : Composer} {t : TenantId} {id : String} {tenants : List TenantId} {f : Fragment}

/-! ## Layers -/

/-- The layers of a composer are those that its tenants hold. -/
theorem mem_layers : (t, id) ∈ c.layers ↔ c.holds t id = true := by
  have hmem : (t, id) ∈ c.layers ↔ ∃ configuration, (t, configuration) ∈ c.feed.entries.entries ∧ id ∈ configuration.fragmentIds := by
    simp [layers]
  rw [hmem, holds_eq]
  simp only [Dictionary.mem_entries, Configuration.fragmentIds, Entries.mem_map_fst_iff]
  change (∃ configuration, c.configuration? t = some configuration ∧ _) ↔ _
  cases hconf : c.configuration? t with
  | none => simp
  | some configuration => simp [Configuration.layer?]

/-- Who has lost a layer can be told from the layers before and after. -/
theorem Loses.sdiff_layers (h : c.Loses id tenants c') : (c.layers \ c'.layers).card = tenants.length := by
  have hlost : c.layers \ c'.layers = (tenants.map fun t => (t, id)).toFinset := by
    ext ⟨t, x⟩
    rw [Finset.mem_sdiff, mem_layers, mem_layers, h.holds, List.mem_toFinset, List.mem_map]
    constructor
    · rintro ⟨hheld, hgone⟩
      split at hgone
      · rename_i hboth
        exact ⟨t, hboth.1, Prod.ext rfl hboth.2⟩
      · exact absurd hheld hgone
    · rintro ⟨_, hmem, hsame⟩
      obtain ⟨rfl, rfl⟩ := Prod.mk.inj hsame
      exact ⟨h.held _ hmem, by simp [hmem]⟩
  rw [hlost, List.toFinset_card_of_nodup, List.length_map]
  exact h.nodup.map fun _ _ hsame => (Prod.mk.inj hsame).1

/-- A merge gives back no layer to those who have lost one, unless it is for one of them. -/
theorem Loses.sdiff_layers_of_merge (h : c.Loses id tenants c') (hmerge : c'.merge f = .ok c'') (haside : f.tenant ∉ tenants) :
    c.layers \ c''.layers = c.layers \ c'.layers := by
  ext ⟨t, x⟩
  rw [Finset.mem_sdiff, Finset.mem_sdiff, mem_layers, mem_layers, mem_layers, holds_of_merge hmerge]
  refine and_congr_right fun hheld => ?_
  split
  · rename_i hboth
    have hkept : c'.holds t x = true := by
      rw [h.holds, if_neg fun hlost => haside (hboth.1 ▸ hlost.1)]
      exact hheld
    rw [hkept]
  · rfl

/-! ## Counters -/

/-- From one composer to the other so many merges were counted, and as many revokes as there are layers lost. -/
structure Meters (c : Composer) (merges : Nat) (c' : Composer) : Prop where
  merges : c'.metrics.count .merges = c.metrics.count .merges + merges
  revokes : c'.metrics.count .revokes = c.metrics.count .revokes + (c.layers \ c'.layers).card

theorem Loses.meters (h : c.Loses id tenants c') : c.Meters 0 c' := ⟨h.merges, h.sdiff_layers ▸ h.counted⟩

theorem Meters.refl (c : Composer) : c.Meters 0 c := (Loses.refl c "").meters

/-- Closing a composer counts neither merges nor revokes. -/
theorem meters_close (c : Composer) : c.Meters 0 c.close := ⟨rfl, (Meters.refl c).revokes⟩

/-- Merging counts a merge, and the layers lost before it. -/
theorem Loses.meters_merge (h : c.Loses id tenants c') (hmerge : c'.merge f = .ok c'') (haside : f.tenant ∉ tenants) :
    c.Meters 1 c'' := by
  have hrecorded := Except.ok.inj ((merge_of_open (isOpen_of_merge hmerge) f).symm.trans hmerge)
  have hmerges : c''.metrics.count .merges = c'.metrics.count .merges + 1 := by
    rw [← hrecorded]
    exact count_recorded c' .merges _ (by decide)
  have hrevokes : c''.metrics.count .revokes = c'.metrics.count .revokes := by
    rw [← hrecorded]
    exact count_recorded c' .merges _ (by decide)
  refine ⟨by rw [hmerges, h.merges], ?_⟩
  rw [hrevokes, h.counted, h.sdiff_layers_of_merge hmerge haside, h.sdiff_layers]

/-! ## The gauge -/

/-- What every recorded call preserves, merges and revokes preserve: those that are not recorded change nothing. -/
theorem Writes.preserves {P : Composer → Prop} (h : c.Writes c')
    (hrecorded : ∀ b metric feed, metric = .merges ∨ metric = .revokes → P b → P (b.recorded metric feed)) (hP : P c) : P c' := by
  induction h with
  | refl => exact hP
  | merge _ hmerge ih =>
    obtain rfl := Except.ok.inj ((merge_of_open (isOpen_of_merge hmerge) _).symm.trans hmerge)
    exact hrecorded _ .merges _ (Or.inl rfl) ih
  | revoke _ hrevoke ih =>
    rcases revoke_cases hrevoke with ⟨-, -, rfl⟩ | ⟨-, -, configuration, -, rfl⟩
    · exact ih
    · exact hrecorded _ .revokes _ (Or.inr rfl) ih

/-- Merges and revokes touch the metrics of the composer only. -/
theorem Writes.keptBy (h : c.Writes c') (hkept : c.metrics.KeptBy .composer) : c'.metrics.KeptBy .composer := by
  refine h.preserves (P := fun b => b.metrics.KeptBy .composer) (fun b metric feed hmetric hb => ?_) hkept
  exact (hb.increment (by rcases hmetric with rfl | rfl <;> rfl)).set rfl rfl _

/-- The calls that were counted. -/
def calls (c : Composer) : Nat := c.metrics.count .merges + c.metrics.count .revokes

/-- Every call that was not refused is a merge or takes a layer. -/
theorem Meters.calls_eq {merges : Nat} (h : c.Meters merges c') : c'.calls = c.calls + (merges + (c.layers \ c'.layers).card) := by
  rw [calls, h.merges, h.revokes, calls]
  omega

/-- A recorded write is one call more. -/
theorem calls_lt_recorded (c : Composer) {metric : Metric} (hmetric : metric = .merges ∨ metric = .revokes)
    (feed : Feed TenantId Configuration) : c.calls < (c.recorded metric feed).calls := by
  rw [calls, calls, count_recorded c metric feed (by decide), count_recorded c metric feed (by decide)]
  rcases hmetric with rfl | rfl
  · rw [if_pos rfl]
    omega
  · rw [if_pos rfl]
    omega

/-- A recorded write sets the gauge of tenants to their number. -/
theorem tenants_recorded (c : Composer) (metric : Metric) (feed : Feed TenantId Configuration) :
    (c.recorded metric feed).metrics.get? .tenants = some (c.recorded metric feed).tenants.length := by
  rw [recorded, Metrics.get?_set, if_pos rfl]
  exact congrArg some (List.length_map _).symm

/-- Merges and revokes that change anything are counted, and set the number of tenants. -/
theorem Writes.tenants_metered (h : c.Writes c') :
    c' = c ∨ c.calls < c'.calls ∧ c'.metrics.get? .tenants = some c'.tenants.length := by
  refine h.preserves (P := fun b => b = c ∨ c.calls < b.calls ∧ b.metrics.get? .tenants = some b.tenants.length)
    (fun b metric feed hmetric hb => ?_) (Or.inl rfl)
  have hle : c.calls ≤ b.calls := by
    rcases hb with rfl | ⟨hless, -⟩
    · exact Nat.le_refl _
    · exact Nat.le_of_lt hless
  exact Or.inr ⟨Nat.lt_of_le_of_lt hle (calls_lt_recorded b hmetric feed), tenants_recorded b metric feed⟩

end Composer

end TenantGateway
