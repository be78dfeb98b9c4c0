import TenantGateway.Proofs.Composer
import TenantGateway.Proofs.Feed.Backlog

/-!
# Only whole configurations are published

Every configuration of a composer has layers, no two of them of one fragment (`Composer.IsWhole`). A merge and a revoke that takes
a layer publish one change each, which shows such a configuration: a put, the first one of a tenant with one layer, or the removal
of a configuration with one layer (`Change.ShowsWhole`). So after a removal the next change of the tenant is a put with one layer
(`Change.put_of_removed`).
-/

namespace TenantGateway

/-- A configuration has layers, no two of them of one fragment. -/
structure Configuration.IsWhole (c : Configuration) : Prop where
  layers_ne_nil : c.layers ≠ []
  distinct : Entries.Distinct c.layers

/-- With distinct keys, a list whose only key is erased to nothing holds one entry. -/
theorem Entries.eq_singleton_of_erase {κ α : Type} [DecidableEq κ] {l : List (κ × α)} (hl : Distinct l) {k : κ} {a : α}
    (hget : get? l k = some a) (herase : erase l k = []) : l = [(k, a)] := by
  have hperm := cons_erase_perm hl hget
  rw [herase] at hperm
  exact List.perm_singleton.1 hperm.symm

namespace Change

/-- Whether a change shows a whole configuration and fits what the tenants have: a tenant without configuration gets one layer,
and a configuration that goes has one. -/
def ShowsWhole (d : Dictionary TenantId Configuration) : Change TenantId Configuration → Prop
  | .put t configuration => configuration.IsWhole ∧ (d.get? t = none → configuration.size = 1)
  | .remove t configuration => d.get? t = some configuration ∧ configuration.size = 1
  | .clear => False

variable {d : Dictionary TenantId Configuration} {changes : List (Change TenantId Configuration)} {t : TenantId}

/-- A change among whole ones shows a whole configuration. -/
theorem InTurn.showsWhole (h : InTurn ShowsWhole d changes) {change : Change TenantId Configuration} (hmem : change ∈ changes) :
    ∃ d', change.ShowsWhole d' := by
  obtain ⟨earlier, later, rfl⟩ := List.append_of_mem hmem
  exact ⟨_, h.of_split⟩

/-- Changes about others leave a tenant what it has. -/
theorem valueAfter_of_aside {value : Option Configuration} (hclear : .clear ∉ changes) (haside : ∀ c ∈ changes, c.key? ≠ some t) :
    valueAfter t value changes = value := by
  induction changes generalizing value with
  | nil => rfl
  | cons change changes ih =>
    have hfirst : change.valueOf t value = value := by
      have hkey := haside change List.mem_cons_self
      cases change with
      | put k a => exact if_neg fun he => hkey (congrArg some he)
      | remove k a => exact if_neg fun he => hkey (congrArg some he)
      | clear => exact absurd List.mem_cons_self hclear
    refine (ih ?_ fun c hc => haside c (List.mem_cons_of_mem change hc)).trans hfirst
    exact fun hmem => hclear (List.mem_cons_of_mem change hmem)

/-- After a configuration was removed, the next change about its tenant is a put with one layer. -/
theorem put_of_removed (h : InTurn ShowsWhole d changes) {configuration : Configuration}
    {earlier between later : List (Change TenantId Configuration)} {next : Change TenantId Configuration}
    (hsplit : changes = earlier ++ .remove t configuration :: (between ++ next :: later))
    (haside : ∀ change ∈ between, change.key? ≠ some t) (hnext : next.key? = some t) :
    ∃ fresh, next = .put t fresh ∧ fresh.size = 1 := by
  have hclear : .clear ∉ between := fun hmem => by
    have hmem' : .clear ∈ changes := by simp [hsplit, hmem]
    exact (h.showsWhole hmem').elim fun _ hfalse => hfalse
  have hsplit' : changes = (earlier ++ .remove t configuration :: between) ++ next :: later := by simp [hsplit]
  have hshows : next.ShowsWhole (applyAll d (earlier ++ .remove t configuration :: between)) := (hsplit' ▸ h).of_split
  have hnone : (applyAll d (earlier ++ .remove t configuration :: between)).get? t = none := by
    rw [applyAll_append, get?_applyAll]
    refine (valueAfter_of_aside hclear haside).trans ?_
    exact if_pos rfl
  cases next with
  | put k fresh =>
    obtain rfl : k = t := Option.some.inj hnext
    exact ⟨fresh, rfl, hshows.2 hnone⟩
  | remove k gone =>
    obtain rfl : k = t := Option.some.inj hnext
    nomatch hnone.symm.trans hshows.1
  | clear => nomatch hnext

end Change

namespace Composer

/-- Every configuration is whole. -/
def IsWhole (c : Composer) : Prop :=
  ∀ t configuration, c.configuration? t = some configuration → configuration.IsWhole

variable {c c' : Composer} {t : TenantId} {id : String}

theorem isWhole_new (capacity : Nat) : (Composer.new capacity).IsWhole := fun _ _ h => nomatch h

/-- The layers of a tenant; there are none without a configuration. -/
def layersOf (c : Composer) (t : TenantId) : List (String × Properties) := ((c.configuration? t).getD .empty).layers

/-- The layers of a tenant have distinct names. -/
theorem IsWhole.distinct_layersOf (h : c.IsWhole) (t : TenantId) : Entries.Distinct (c.layersOf t) := by
  unfold layersOf
  cases hconf : c.configuration? t with
  | none => exact Entries.Distinct.nil
  | some configuration => exact (h t configuration hconf).distinct

/-- When revoking the layer of a fragment leaves a tenant nothing, it was the only layer. -/
theorem IsWhole.fragmentIds_eq (hw : c.IsWhole) {configuration : Configuration} (hconf : c.configuration? t = some configuration)
    (hholds : c.holds t id = true) (hnothing : (configuration.removeLayer id).layers = []) : configuration.fragmentIds = [id] := by
  rw [holds_eq, hconf, Option.bind_some] at hholds
  obtain ⟨properties, hlayer⟩ := Option.isSome_iff_exists.1 hholds
  rw [Configuration.fragmentIds, Entries.eq_singleton_of_erase (hw t configuration hconf).distinct hlayer hnothing]
  rfl

/-! ## One call -/

/-- A merge into an open composer publishes one put, with the layers that the tenant had and the new one behind them. -/
theorem merge_publishes (h : c.feed.closed = false) (f : Fragment) :
    ∃ c' configuration, c.merge f = .ok c' ∧ configuration.layers = Entries.file (c.layersOf f.tenant) f.id f.properties ∧
      c'.configuration? f.tenant = some configuration ∧
      c'.feed.published = c.feed.published ++ [.put f.tenant configuration] :=
  ⟨_, _, merge_of_open h f, rfl, (configuration?_publishPut _ _ _ _ _).trans (if_pos rfl), rfl⟩

/-- A revoke from an open composer publishes nothing when the tenant has no such layer. Else it publishes one put with the other
layers, or, when there are none, the removal of the configuration with this one layer. -/
theorem revoke_publishes (hw : c.IsWhole) (h : c.feed.closed = false) (t : TenantId) (id : String) :
    ∃ any c', c.revoke t id = .ok (any, c') ∧ (any = false → c' = c) ∧
      (any = true → ∃ configuration, c.configuration? t = some configuration ∧
        ((∃ rest, rest.layers = Entries.erase configuration.layers id ∧ rest.layers ≠ [] ∧ c'.configuration? t = some rest ∧
            c'.feed.published = c.feed.published ++ [.put t rest]) ∨
          (configuration.fragmentIds = [id] ∧ c'.configuration? t = none ∧
            c'.feed.published = c.feed.published ++ [.remove t configuration]))) := by
  obtain ⟨any, c', hrevoke⟩ := exists_revoke h t id
  refine ⟨any, c', hrevoke, fun hany => ?_, fun hany => ?_⟩
  · rcases revoke_cases hrevoke with ⟨-, -, hc⟩ | ⟨htrue, -⟩
    · exact hc
    · nomatch hany.symm.trans htrue
  · rcases revoke_cases hrevoke with ⟨hfalse, -⟩ | ⟨-, hholds, configuration, hconf, rfl⟩
    · nomatch hany.symm.trans hfalse
    refine ⟨configuration, hconf, ?_⟩
    have hrest := configuration?_publishRest c t configuration (configuration.removeLayer id) t
    rw [if_pos rfl] at hrest
    cases hempty : configuration.removeLayer id with
    | mk layers =>
      rw [hempty] at hrest
      cases layers with
      | nil => exact Or.inr ⟨hw.fragmentIds_eq hconf hholds (congrArg Configuration.layers hempty), hrest, rfl⟩
      | cons e layers =>
        refine Or.inl ⟨⟨e :: layers⟩, ?_, List.cons_ne_nil _ _, hrest, rfl⟩
        exact (congrArg Configuration.layers hempty).symm

/-! ## Many calls -/

/-- From a composer with whole configurations, only changes that show whole ones have led to the other. -/
def WholeTo (c c' : Composer) : Prop :=
  c.IsWhole → c'.IsWhole ∧ ∃ since, c.feed.GrowsBy since c'.feed ∧ Change.InTurn Change.ShowsWhole c.feed.entries since

theorem WholeTo.refl (c : Composer) : c.WholeTo c := fun h => ⟨h, [], .refl c.feed, trivial⟩

theorem WholeTo.trans {c'' : Composer} (h : c.WholeTo c') (h' : c'.WholeTo c'') : c.WholeTo c'' := by
  intro hw
  obtain ⟨hw', since, hgrows, hshows⟩ := h hw
  obtain ⟨hw'', more, hgrows', hshows'⟩ := h' hw'
  refine ⟨hw'', since ++ more, hgrows.trans hgrows', (Change.inTurn_append _ _ _).2 ⟨hshows, ?_⟩⟩
  rw [← hgrows.entries]
  exact hshows'

/-- One change that shows a whole configuration leads from a composer with whole configurations to another one. -/
theorem wholeTo_of_publish (h : c.feed.closed = false) (change : Change TenantId Configuration)
    (htrue : change.IsTrueOf c.feed.entries) (hshows : change.ShowsWhole c.feed.entries)
    (hentries : c'.feed = { c.feed with
      entries := change.applyTo c.feed.entries
      published := c.feed.published ++ [change] })
    (hw : c'.IsWhole) : c.WholeTo c' :=
  fun _ => ⟨hw, [change], hentries ▸ Feed.growsBy_publish h change htrue, hshows, trivial⟩

/-- A merge publishes whole configurations. -/
theorem wholeTo_merge {f : Fragment} (h : c.merge f = .ok c') : c.WholeTo c' := by
  intro hw
  have hopen := isOpen_of_merge h
  obtain rfl := Except.ok.inj ((merge_of_open hopen f).symm.trans h)
  have hconf : Configuration.IsWhole (((c.configuration? f.tenant).getD .empty).insertLayer f.id f.properties) :=
    ⟨by simp [Configuration.insertLayer, Entries.file], (hw.distinct_layersOf f.tenant).file f.id f.properties⟩
  refine wholeTo_of_publish hopen (.put f.tenant _) trivial ⟨hconf, fun hnone => ?_⟩ rfl ?_ hw
  · have hnone : c.configuration? f.tenant = none := hnone
    rw [hnone]
    rfl
  · intro t configuration ht
    rw [configuration?_publishPut] at ht
    split at ht
    · exact Option.some.inj ht ▸ hconf
    · exact hw t configuration ht

/-- A revoke publishes whole configurations: those that are left are those there were, or the rest of one. -/
theorem wholeTo_revoke {any : Bool} (h : c.revoke t id = .ok (any, c')) : c.WholeTo c' := by
  intro hw
  have hopen := isOpen_of_revoke h
  rcases revoke_cases h with ⟨-, -, rfl⟩ | ⟨-, hholds, configuration, hconf, rfl⟩
  · exact WholeTo.refl c' hw
  have hconfs := configuration?_publishRest c t configuration (configuration.removeLayer id)
  have hrest : Entries.Distinct (configuration.removeLayer id).layers := (hw t configuration hconf).distinct.erase id
  have hw' : (c.recorded .revokes (if (configuration.removeLayer id).isEmpty then c.feed.publishRemove t configuration
      else c.feed.publishPut t (configuration.removeLayer id))).IsWhole := by
    intro x conf hx
    rw [hconfs] at hx
    split at hx
    · cases hlayers : (configuration.removeLayer id).layers with
      | nil =>
        rw [hlayers] at hx
        nomatch hx
      | cons e layers =>
        rw [hlayers] at hx hrest
        exact Option.some.inj hx ▸ ⟨List.cons_ne_nil e layers, hrest⟩
    · exact hw x conf hx
  cases hempty : (configuration.removeLayer id).isEmpty with
  | true =>
    rw [hempty] at hw'
    have hlast := congrArg List.length (hw.fragmentIds_eq hconf hholds (List.isEmpty_iff.1 hempty))
    rw [Configuration.fragmentIds, List.length_map] at hlast
    exact wholeTo_of_publish hopen (.remove t configuration) hconf ⟨hconf, hlast⟩ rfl hw' hw
  | false =>
    rw [hempty] at hw'
    have hne : (configuration.removeLayer id).layers ≠ [] := fun hnil => by
      rw [Configuration.isEmpty, hnil] at hempty
      nomatch hempty
    refine wholeTo_of_publish hopen (.put t _) trivial ⟨⟨hne, hrest⟩, fun hnone => ?_⟩ rfl hw' hw
    nomatch hnone.symm.trans hconf

theorem Writes.wholeTo (h : c.Writes c') : c.WholeTo c' := by
  induction h with
  | refl => exact .refl c
  | merge _ hmerge ih => exact ih.trans (wholeTo_merge hmerge)
  | revoke _ hrevoke ih => exact ih.trans (wholeTo_revoke hrevoke)

theorem wholeTo_close (c : Composer) : c.WholeTo c.close := fun h => ⟨h, [], Feed.growsBy_close c.feed, trivial⟩

end Composer

end TenantGateway
