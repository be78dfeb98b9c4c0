import TenantGateway.Proofs.Composer
import TenantGateway.Proofs.Run
import TenantGateway.Proofs.Sync.Mapping
import TenantGateway.Sync.Live

/-!
# Configuration follows the live resources

After every event of a well-formed history the composer carries exactly the layers that the live resources contribute
(`Sync.Follows`), whichever of its ways the handling of the event took.
-/

namespace TenantGateway

namespace LiveResources

/-- A uid occurs once, and is the uid of its resource. -/
structure WellFormed (live : LiveResources) : Prop where
  distinct : Entries.Distinct live.entries
  uid : ∀ e ∈ live.entries, e.2.2.uid = e.1

variable {s : LabelSelector} {t : TenantId}

theorem wellFormed_empty : LiveResources.empty.WellFormed := ⟨Entries.Distinct.nil, fun _ he => nomatch he⟩

/-- A layer is named as the resource that contributes it. -/
theorem layer?_name {e : String × ResourceKind × Resource} {l : String × Properties} (h : layer? s t e = some l) :
    l.1 = e.1 := by
  unfold layer? at h
  split at h
  · split at h
    · cases h
      rfl
    · nomatch h
  · nomatch h

/-- A resource contributes a layer to the tenant of its fragment only. -/
theorem layer?_of_fragment? {uid : String} {kind : ResourceKind} {r : Resource} {f : Fragment}
    (h : s.fragment? kind r = some f) :
    layer? s t (uid, kind, r) = if f.tenant = t then some (uid, f.properties) else none := by
  unfold layer?
  dsimp only
  rw [h]

/-- A resource without a fragment has no layer. -/
theorem layer?_of_fragment?_none {uid : String} {kind : ResourceKind} {r : Resource} (h : s.fragment? kind r = none) :
    layer? s t (uid, kind, r) = none := by
  unfold layer?
  dsimp only
  rw [h]

/-- Without a resource, its layer is gone. -/
theorem layers_erase (entries : List (String × ResourceKind × Resource)) (uid : String) :
    (⟨Entries.erase entries uid⟩ : LiveResources).layers s t =
      Entries.erase ((⟨entries⟩ : LiveResources).layers s t) uid := by
  unfold layers Entries.erase
  rw [List.filterMap_filter, List.filter_filterMap]
  refine List.filterMap_congr fun e _ => ?_
  cases h : layer? s t e with
  | none => simp
  | some l => simp [Option.filter_some, layer?_name h]

/-- A resource filed last contributes the last layer, if any. -/
theorem layers_file (entries : List (String × ResourceKind × Resource)) (uid : String) (e : ResourceKind × Resource) :
    (⟨Entries.file entries uid e⟩ : LiveResources).layers s t =
      Entries.erase ((⟨entries⟩ : LiveResources).layers s t) uid ++ (layer? s t (uid, e)).toList := by
  rw [← layers_erase]
  refine List.filterMap_append.trans (congrArg _ ?_)
  cases h : layer? s t (uid, e) <;> simp [h]

/-- A resource that contributes the same as before changes no layer. -/
theorem layers_put {entries : List (String × ResourceKind × Resource)} {uid : String} {kind : ResourceKind}
    {old new : Resource} (h : Entries.get? entries uid = some (kind, old))
    (hf : s.fragment? kind old = s.fragment? kind new) :
    (⟨Entries.put entries uid (kind, new)⟩ : LiveResources).layers s t = (⟨entries⟩ : LiveResources).layers s t := by
  induction entries with
  | nil => nomatch h
  | cons e entries ih =>
    obtain ⟨name, state⟩ := e
    rw [Entries.get?_cons] at h
    rw [Entries.put]
    by_cases he : name = uid
    · rw [if_pos he] at h
      obtain rfl := he
      obtain rfl := Option.some.inj h
      have hsame : layer? s t (name, kind, new) = layer? s t (name, kind, old) := by
        unfold layer?
        dsimp only
        rw [hf]
      rw [if_pos rfl, layers, layers, List.filterMap_cons, List.filterMap_cons, hsame]
    · rw [if_neg he] at h
      rw [if_neg he, layers, layers, List.filterMap_cons, List.filterMap_cons]
      have hrest := ih h
      unfold layers at hrest
      dsimp only at hrest ⊢
      rw [hrest]

/-- The layer under a uid is the one that the live resource of that uid contributes. -/
theorem WellFormed.get?_layers {live : LiveResources} (h : live.WellFormed) (uid : String) :
    Entries.get? (live.layers s t) uid = (live.get? uid).bind fun e => (layer? s t (uid, e)).map Prod.snd := by
  obtain ⟨entries⟩ := live
  have hd : Entries.Distinct entries := h.distinct
  clear h
  unfold layers get?
  induction entries with
  | nil => rfl
  | cons e entries ih =>
    obtain ⟨name, state⟩ := e
    obtain ⟨hne, hd⟩ := Entries.distinct_cons.1 hd
    dsimp only at ih ⊢
    rw [List.filterMap_cons, Entries.get?_cons]
    by_cases he : name = uid
    · obtain rfl := he
      have hrest : Entries.get? entries name = none := Entries.get?_eq_none_iff.2 hne
      cases hl : layer? s t (name, state) with
      | none => rw [if_pos rfl, ih hd, hrest, Option.bind_some, hl]; rfl
      | some l => rw [if_pos rfl, Entries.get?_cons, if_pos (layer?_name hl), Option.bind_some, hl]; rfl
    · rw [if_neg he, ← ih hd]
      cases hl : layer? s t (name, state) with
      | none => rfl
      | some l => rw [Entries.get?_cons, if_neg fun hn => he ((layer?_name hl).symm.trans hn)]

/-- A resource has no layer with a tenant that its fragment does not go to. -/
theorem WellFormed.erase_layers {live : LiveResources} (h : live.WellFormed) {uid : String} {kind : ResourceKind}
    {r : Resource} (hr : live.get? uid = some (kind, r)) (ht : ∀ f, s.fragment? kind r = some f → f.tenant ≠ t) :
    Entries.erase (live.layers s t) uid = live.layers s t := by
  refine Entries.erase_eq_self (Entries.get?_eq_none_iff.1 ?_)
  rw [h.get?_layers, hr, Option.bind_some]
  cases hf : s.fragment? kind r with
  | none => rw [layer?_of_fragment?_none hf]; rfl
  | some f => rw [layer?_of_fragment? hf, if_neg (ht f hf)]; rfl

/-- Without a resource of the uid, there is no layer of it. -/
theorem WellFormed.erase_layers_absent {live : LiveResources} (h : live.WellFormed) {uid : String}
    (hr : live.get? uid = none) : Entries.erase (live.layers s t) uid = live.layers s t := by
  refine Entries.erase_eq_self (Entries.get?_eq_none_iff.1 ?_)
  rw [h.get?_layers, hr]
  rfl

/-- A resource that is filed keeps what lives well-formed. -/
theorem WellFormed.file {live : LiveResources} (h : live.WellFormed) (kind : ResourceKind) (r : Resource) :
    WellFormed ⟨Entries.file live.entries r.uid (kind, r)⟩ := by
  refine ⟨h.distinct.file _ _, fun e he => ?_⟩
  rcases List.mem_append.1 he with he | he
  · exact h.uid e (Entries.mem_erase.1 he).1
  · rw [List.mem_singleton.1 he]

/-- An event keeps live resources well formed. -/
theorem WellFormed.after {live : LiveResources} (h : live.WellFormed) (s : LabelSelector) (kind : ResourceKind)
    (e : ResourceEvent) : (live.after s kind e).WellFormed := by
  cases e with
  | added r => exact h.file kind r
  | updated old new =>
    unfold LiveResources.after
    dsimp only
    split
    · refine ⟨h.distinct.put _ _, fun e he => ?_⟩
      rcases Entries.mem_put he with rfl | he
      · rfl
      · exact h.uid e he
    · exact h.file kind new
  | deleted r unknown => exact ⟨h.distinct.erase _, fun e he => h.uid e (Entries.mem_erase.1 he).1⟩

end LiveResources

/-! ## Handling one event -/

namespace Sync

/-! ### In any state -/

section

variable {s s' : Sync} {kind : ResourceKind} {outcome : SyncOutcome}

theorem writes_merge {f : Fragment} (h : s.merge f = .ok (outcome, s')) : s.composer.Writes s'.composer := by
  obtain ⟨composer, hmerge, hresult⟩ := bind_eq_ok.1 h
  obtain ⟨-, rfl⟩ := Prod.mk.inj (Except.ok.inj hresult)
  exact .merge .refl hmerge

theorem writes_update {previous current : Option Fragment} (h : s.update kind previous current = .ok (outcome, s')) :
    s.composer.Writes s'.composer := by
  cases previous with
  | none =>
    cases current with
    | none =>
      obtain ⟨-, rfl⟩ := Prod.mk.inj (Except.ok.inj h)
      exact .refl
    | some current => exact writes_merge h
  | some previous =>
    cases current with
    | none =>
      obtain ⟨⟨any, composer⟩, hrevoke, hresult⟩ := bind_eq_ok.1 h
      obtain ⟨-, rfl⟩ := Prod.mk.inj (Except.ok.inj hresult)
      exact .revoke .refl hrevoke
    | some current =>
      rw [update] at h
      split at h
      · obtain ⟨-, rfl⟩ := Prod.mk.inj (Except.ok.inj h)
        exact .refl
      · split at h
        · exact writes_merge h
        · obtain ⟨⟨any, composer⟩, hrevoke, hresult⟩ := bind_eq_ok.1 h
          exact Composer.Writes.trans (.revoke .refl hrevoke) (writes_merge hresult)

theorem writes_withdraw {uid : String} {order : List TenantId} (h : s.withdraw kind uid order = .ok (outcome, s')) :
    s.composer.Writes s'.composer := by
  unfold withdraw at h
  split at h
  · obtain ⟨-, rfl⟩ := Prod.mk.inj (Except.ok.inj h)
    exact .refl
  · obtain ⟨composer, hrevoke, hresult⟩ := bind_eq_ok.1 h
    obtain ⟨-, rfl⟩ := Prod.mk.inj (Except.ok.inj hresult)
    exact Composer.writes_revokeAll hrevoke

theorem writes_delete {r : Resource} {order : List TenantId} (h : s.delete kind r order = .ok (outcome, s')) :
    s.composer.Writes s'.composer := by
  unfold delete at h
  split at h
  · exact writes_withdraw h
  · obtain ⟨⟨any, composer⟩, hrevoke, hresult⟩ := bind_eq_ok.1 h
    have hwrites : s.composer.Writes composer := .revoke .refl hrevoke
    cases any with
    | true =>
      obtain ⟨-, rfl⟩ := Prod.mk.inj (Except.ok.inj hresult)
      exact hwrites
    | false => exact hwrites.trans (writes_withdraw hresult)

/-- An event that is not refused merges and revokes. -/
theorem writes_handle {e : ResourceEvent} {order : List TenantId} (h : s.handle kind e order = .ok (outcome, s')) :
    s.composer.Writes s'.composer := by
  cases e with
  | added r =>
    rw [handle] at h
    split at h
    · exact writes_merge h
    · obtain ⟨-, rfl⟩ := Prod.mk.inj (Except.ok.inj h)
      exact .refl
  | updated old new => exact writes_update h
  | deleted r unknown => exact writes_delete h

/-- An event that is not refused makes the configuration feed grow. -/
theorem growsTo_handle {e : ResourceEvent} {order : List TenantId} (h : s.handle kind e order = .ok (outcome, s')) :
    s.composer.feed.GrowsTo s'.composer.feed :=
  (writes_handle h).growsTo

end

/-! ### After a well-formed history -/

/-- Handling an event succeeded: the configuration feed only grew, and the tenants have the layers given. -/
def LeadsTo (s : Sync) (result : Except FeedError (SyncOutcome × Sync)) (layers : TenantId → List (String × Properties)) :
    Prop :=
  ∃ outcome s', result = .ok (outcome, s') ∧ s'.selector = s.selector ∧ s.composer.feed.GrowsTo s'.composer.feed ∧
    s'.composer.Carries layers

variable {s : Sync} {layers : TenantId → List (String × Properties)}

theorem LeadsTo.congr {result : Except FeedError (SyncOutcome × Sync)} (h : s.LeadsTo result layers)
    {layers' : TenantId → List (String × Properties)} (hl : ∀ t, layers t = layers' t) : s.LeadsTo result layers' := by
  obtain ⟨outcome, s', hresult, hs, hgrows, hc⟩ := h
  exact ⟨outcome, s', hresult, hs, hgrows, hc.congr hl⟩

/-- What the handling leads to from a changed composer, it leads to in all. -/
theorem LeadsTo.withComposer {composer : Composer} {result : Except FeedError (SyncOutcome × Sync)}
    (hgrows : s.composer.feed.GrowsTo composer.feed) (h : (s.withComposer composer).LeadsTo result layers) :
    s.LeadsTo result layers := by
  obtain ⟨outcome, s', hresult, hs, hmore, hc⟩ := h
  exact ⟨outcome, s', hresult, hs, hgrows.trans hmore, hc⟩

/-- An event that is skipped leaves the layers as they are. -/
theorem leadsTo_skip (h : s.composer.Carries layers) (kind : ResourceKind) : s.LeadsTo (.ok (s.skip kind)) layers :=
  ⟨_, _, rfl, rfl, .refl _, h⟩

/-- An event that is suppressed leaves the layers as they are. -/
theorem leadsTo_suppress (h : s.composer.Carries layers) (kind : ResourceKind) :
    s.LeadsTo (.ok (s.suppress kind)) layers :=
  ⟨_, _, rfl, rfl, .refl _, h⟩

/-- Merging a fragment files its layer, behind the others of its tenant. -/
theorem leadsTo_merge (h : s.composer.Carries layers) (f : Fragment) : s.LeadsTo (s.merge f) fun t =>
    if f.tenant = t then Entries.file (layers t) f.id f.properties else layers t := by
  obtain ⟨composer, hmerge, hgrows, hc⟩ := h.merge f
  exact ⟨.merged, s.withComposer composer, by rw [merge, hmerge]; rfl, rfl, hgrows, hc⟩

/-- A withdrawal takes the layer of a uid from every tenant. -/
theorem leadsTo_withdraw (h : s.composer.Carries layers) (kind : ResourceKind) (uid : String)
    (order : List TenantId) : s.LeadsTo (s.withdraw kind uid order) fun t => Entries.erase (layers t) uid := by
  obtain ⟨composer, hrevoke, hgrows, hc⟩ := h.revokeAll_owners uid order
  cases howners : s.composer.owners uid order with
  | nil =>
    rw [howners] at hrevoke
    obtain rfl := Except.ok.inj hrevoke
    rw [withdraw, howners]
    exact leadsTo_skip hc kind
  | cons t tenants =>
    rw [howners] at hrevoke
    exact ⟨.revoked, s.withComposer composer, by rw [withdraw, howners]; dsimp only; rw [hrevoke]; rfl, rfl, hgrows, hc⟩

/-- The composer carries the layers that the live resources contribute. -/
structure Follows (s : Sync) (live : LiveResources) : Prop where
  wellFormed : live.WellFormed
  carries : s.composer.Carries (live.layers s.selector)

variable {live : LiveResources}

theorem follows_new (capacity : Nat) (selector : LabelSelector) : (Sync.new (.new capacity) selector).Follows .empty :=
  ⟨LiveResources.wellFormed_empty, Composer.carries_new capacity⟩

/-- Merging the fragment of a resource registers its layer last, when no other tenant has the layer any more. -/
theorem leadsTo_merge_fragment {layers' : TenantId → List (String × Properties)} (h : s.composer.Carries layers')
    {kind : ResourceKind} {r : Resource} {f : Fragment} (hf : s.fragment? kind r = some f)
    (hsame : ∀ t, Entries.erase (layers' t) r.uid = Entries.erase (layers t) r.uid)
    (hothers : ∀ t, f.tenant ≠ t → layers' t = Entries.erase (layers t) r.uid) :
    s.LeadsTo (s.merge f) fun t =>
      Entries.erase (layers t) r.uid ++ (LiveResources.layer? s.selector t (r.uid, kind, r)).toList := by
  refine (leadsTo_merge h f).congr fun t => ?_
  rw [LiveResources.layer?_of_fragment? hf, (LabelSelector.fragment?_eq_some hf).1]
  by_cases ht : f.tenant = t
  · rw [if_pos ht, if_pos ht, Entries.file, hsame t]
    rfl
  · rw [if_neg ht, if_neg ht, hothers t ht]
    exact (List.append_nil _).symm

/-- A resource that changes its fragment has its layer, if any, registered last with the tenant that it goes to now. -/
theorem Follows.leadsTo_update (h : s.Follows live) {kind : ResourceKind} {old new : Resource} (huid : new.uid = old.uid)
    (hold : live.get? old.uid = some (kind, old)) (hne : s.fragment? kind old ≠ s.fragment? kind new) :
    s.LeadsTo (s.update kind (s.fragment? kind old) (s.fragment? kind new)) fun t =>
      Entries.erase (live.layers s.selector t) new.uid ++
        (LiveResources.layer? s.selector t (new.uid, kind, new)).toList := by
  have habsent : ∀ t, (∀ f, s.fragment? kind old = some f → f.tenant ≠ t) →
      live.layers s.selector t = Entries.erase (live.layers s.selector t) new.uid :=
    fun t ht => (huid ▸ h.wellFormed.erase_layers hold ht).symm
  cases hprev : s.fragment? kind old with
  | none =>
    have hnone : ∀ t, live.layers s.selector t = Entries.erase (live.layers s.selector t) new.uid :=
      fun t => habsent t fun f hf => (nomatch hprev.symm.trans hf)
    cases hnew : s.fragment? kind new with
    | none => exact absurd (hprev.trans hnew.symm) hne
    | some current => exact leadsTo_merge_fragment h.carries hnew (fun _ => rfl) fun t _ => hnone t
  | some previous =>
    have hid : previous.id = new.uid := (LabelSelector.fragment?_eq_some hprev).1.trans huid.symm
    have hother : ∀ t, previous.tenant ≠ t →
        live.layers s.selector t = Entries.erase (live.layers s.selector t) new.uid :=
      fun t ht => habsent t fun f hf => Option.some.inj (hprev.symm.trans hf) ▸ ht
    obtain ⟨composer, hrevoke, hgrows, hc⟩ := h.carries.revoke previous.tenant previous.id
    have hgone : ∀ t, (if previous.tenant = t then Entries.erase (live.layers s.selector t) previous.id
        else live.layers s.selector t) = Entries.erase (live.layers s.selector t) new.uid := by
      intro t
      by_cases ht : previous.tenant = t
      · rw [if_pos ht, hid]
      · rw [if_neg ht]
        exact hother t ht
    cases hnew : s.fragment? kind new with
    | none =>
      refine ⟨.revoked, s.withComposer composer, by rw [update, hrevoke]; rfl, rfl, hgrows, hc.congr fun t => ?_⟩
      rw [hgone t, LiveResources.layer?_of_fragment?_none hnew]
      exact (List.append_nil _).symm
    | some current =>
      have hpc : previous ≠ current := fun he => hne (by rw [hprev, hnew, he])
      by_cases htenant : previous.tenant = current.tenant
      · rw [update, if_neg hpc, if_pos htenant]
        exact leadsTo_merge_fragment h.carries hnew (fun _ => rfl) fun t ht => hother t (htenant ▸ ht)
      · rw [update, if_neg hpc, if_neg htenant, hrevoke]
        refine LeadsTo.withComposer hgrows ?_
        exact leadsTo_merge_fragment (s := s.withComposer composer) (hc.congr hgone) hnew
          (fun t => Entries.erase_erase _ _) fun t _ => rfl

/-- A deleted resource has no layer any more, whatever its final labels tell. -/
theorem Follows.leadsTo_delete (h : s.Follows live) {kind : ResourceKind} {r last : Resource}
    (hlast : live.get? r.uid = some (kind, last)) (order : List TenantId) :
    s.LeadsTo (s.delete kind r order) fun t => Entries.erase (live.layers s.selector t) r.uid := by
  unfold delete
  cases hidentify : s.selector.identify r with
  | none => exact leadsTo_withdraw h.carries kind r.uid order
  | some owner =>
    obtain ⟨tenant, id⟩ := owner
    obtain rfl : id = r.uid := LabelSelector.identify_uid hidentify
    obtain ⟨composer, hrevoke, hgrows, hc⟩ := h.carries.revoke tenant r.uid
    dsimp only
    rw [hrevoke]
    cases hlayer : Entries.get? (live.layers s.selector tenant) r.uid with
    | none =>
      refine LeadsTo.withComposer hgrows ((leadsTo_withdraw (s := s.withComposer composer) hc kind r.uid order).congr fun t => ?_)
      by_cases ht : tenant = t
      · rw [if_pos ht, Entries.erase_erase]
      · rw [if_neg ht]
    | some properties =>
      refine ⟨.revoked, s.withComposer composer, rfl, rfl, hgrows, hc.congr fun t => ?_⟩
      by_cases ht : tenant = t
      · rw [if_pos ht]
      · rw [if_neg ht]
        refine (h.wellFormed.erase_layers hlast fun f hf hft => ht ?_).symm
        rw [h.wellFormed.get?_layers, hlast, Option.bind_some, LiveResources.layer?_of_fragment? hf] at hlayer
        by_cases hown : f.tenant = tenant
        · exact hown.symm.trans hft
        · rw [if_neg hown] at hlayer
          nomatch hlayer

/-- The composer goes on carrying the layers of the live resources. -/
theorem Follows.handle (h : s.Follows live) {kind : ResourceKind} {e : ResourceEvent} (ha : live.Admits kind e)
    (order : List TenantId) :
    ∃ outcome s', s.handle kind e order = .ok (outcome, s') ∧ s'.selector = s.selector ∧
      s.composer.feed.GrowsTo s'.composer.feed ∧ s'.Follows (live.after s.selector kind e) := by
  have hleads : s.LeadsTo (s.handle kind e order) ((live.after s.selector kind e).layers s.selector) := by
    cases e with
    | added r =>
      have hnone : ∀ t, Entries.erase (live.layers s.selector t) r.uid = live.layers s.selector t :=
        fun t => h.wellFormed.erase_layers_absent ha
      refine LeadsTo.congr ?_ fun t => (LiveResources.layers_file live.entries r.uid (kind, r)).symm
      rw [Sync.handle]
      cases hf : s.fragment? kind r with
      | some f => exact leadsTo_merge_fragment h.carries hf (fun _ => rfl) fun t _ => (hnone t).symm
      | none =>
        refine (leadsTo_skip h.carries kind).congr fun t => ?_
        rw [LiveResources.layer?_of_fragment?_none hf]
        exact (hnone t).symm.trans (List.append_nil _).symm
    | updated old new =>
      obtain ⟨huid, hold⟩ := ha
      by_cases hsame : s.fragment? kind old = s.fragment? kind new
      · have hafter : ∀ t, (live.after s.selector kind (.updated old new)).layers s.selector t = live.layers s.selector t := by
          intro t
          rw [LiveResources.after, if_pos (show s.selector.fragment? kind old = s.selector.fragment? kind new from hsame)]
          exact LiveResources.layers_put (huid ▸ hold) hsame
        refine LeadsTo.congr ?_ fun t => (hafter t).symm
        rw [Sync.handle, hsame]
        cases s.fragment? kind new with
        | none => exact leadsTo_skip h.carries kind
        | some f =>
          rw [update, if_pos rfl]
          exact leadsTo_suppress h.carries kind
      · refine (h.leadsTo_update huid hold hsame).congr fun t => ?_
        rw [LiveResources.after, if_neg (show ¬s.selector.fragment? kind old = s.selector.fragment? kind new from hsame)]
        exact (LiveResources.layers_file live.entries new.uid (kind, new)).symm
    | deleted r unknown =>
      obtain ⟨last, hlast⟩ := ha
      exact (h.leadsTo_delete hlast order).congr fun t => (LiveResources.layers_erase live.entries r.uid).symm
  obtain ⟨outcome, s', hresult, hs, hgrows, hc⟩ := hleads
  exact ⟨outcome, s', hresult, hs, hgrows, h.wellFormed.after _ _ _, hs.symm ▸ hc⟩

end Sync

end TenantGateway
