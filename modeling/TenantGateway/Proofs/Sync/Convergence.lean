import Mathlib.Data.List.Induction
import TenantGateway.Proofs.Sync

/-!
# What live resources leave in the configurations

A well-formed history of resource events, handled from an empty open composer on, leaves to every tenant the fragments of the live
resources and nothing else (`Sync.run_composes_live_fragments`). The layers stand in the order in which these fragments last changed,
which is read off the history alone (`LiveResources.lastChange`).
-/

namespace TenantGateway

namespace LiveResources

variable {s : LabelSelector} {live : LiveResources} {kind : ResourceKind} {e : ResourceEvent} {uid : String}

/-! ## One event -/

/-- An event is about the resource of its uid only. -/
theorem get?_after_of_ne (h : e.uid ≠ uid) : (live.after s kind e).get? uid = live.get? uid := by
  cases e with
  | added r =>
    have hne : r.uid ≠ uid := h
    simp [after, get?, Entries.get?_file, hne]
  | updated old new =>
    have hne : new.uid ≠ uid := h
    rw [after]
    split
    · simp [get?, Entries.get?_put, hne]
    · simp [get?, Entries.get?_file, hne]
  | deleted r unknown =>
    have hne : r.uid ≠ uid := h
    simp [after, get?, Entries.get?_erase, hne]

/-- The resource of the uid is in the state that the event leads to, or is gone. -/
theorem get?_after_self (live : LiveResources) (s : LabelSelector) (kind : ResourceKind) (e : ResourceEvent) :
    (live.after s kind e).get? e.uid =
      match e with
      | .added r => some (kind, r)
      | .updated _ new => some (kind, new)
      | .deleted _ _ => none := by
  cases e with
  | added r => simp [after, get?, Entries.get?_file, ResourceEvent.uid]
  | updated old new =>
    rw [after]
    split <;> simp [get?, Entries.get?_file, Entries.get?_put, ResourceEvent.uid]
  | deleted r unknown => simp [after, get?, Entries.get?_erase, ResourceEvent.uid]

/-- An event does not change the fragments of other resources. -/
theorem fragmentOf?_after_of_ne (h : e.uid ≠ uid) : (live.after s kind e).fragmentOf? s uid = live.fragmentOf? s uid := by
  rw [fragmentOf?, fragmentOf?, get?_after_of_ne h]

/-- What an event makes of the fragment of its resource. -/
theorem fragmentOf?_after_self (live : LiveResources) (s : LabelSelector) (kind : ResourceKind) (e : ResourceEvent) :
    (live.after s kind e).fragmentOf? s e.uid =
      match e with
      | .added r => s.fragment? kind r
      | .updated _ new => s.fragment? kind new
      | .deleted _ _ => none := by
  rw [fragmentOf?, get?_after_self]
  cases e <;> rfl

/-- An event that leaves the fragment of its resource as it was changes no layer. -/
theorem WellFormed.layers_after_same (h : live.WellFormed) (ha : live.Admits kind e)
    (hsame : live.fragmentOf? s e.uid = (live.after s kind e).fragmentOf? s e.uid) (t : TenantId) :
    (live.after s kind e).layers s t = live.layers s t := by
  rw [fragmentOf?_after_self] at hsame
  cases e with
  | added r =>
    have hold : live.fragmentOf? s r.uid = none := congrArg (Option.bind · _) ha
    have hnone : s.fragment? kind r = none := hsame.symm.trans hold
    have hfile : (live.after s kind (.added r)).layers s t = _ := layers_file live.entries r.uid (kind, r)
    rw [hfile, layer?_of_fragment?_none hnone, h.erase_layers_absent ha]
    exact List.append_nil _
  | updated old new =>
    obtain ⟨huid, hlive⟩ := ha
    have hold : live.fragmentOf? s new.uid = s.fragment? kind old := by simp [fragmentOf?, huid, hlive]
    have hfragment : s.fragment? kind old = s.fragment? kind new := hold.symm.trans hsame
    rw [LiveResources.after, if_pos hfragment]
    exact layers_put (huid ▸ hlive) hfragment
  | deleted r unknown =>
    obtain ⟨final, hlive⟩ := ha
    have hold : live.fragmentOf? s r.uid = s.fragment? kind final := by simp [fragmentOf?, hlive]
    have hnone : s.fragment? kind final = none := hold.symm.trans hsame
    have herase : (live.after s kind (.deleted r unknown)).layers s t = _ := layers_erase live.entries r.uid
    refine herase.trans (h.erase_layers hlive fun f hf => ?_)
    cases hnone.symm.trans hf

/-- An event that changes the fragment of its resource takes the layer of the resource away, and leaves it one in the last place
or none. -/
theorem layers_after_changed (ha : live.Admits kind e)
    (hchanged : live.fragmentOf? s e.uid ≠ (live.after s kind e).fragmentOf? s e.uid) (t : TenantId) :
    ∃ last : Option (String × Properties), (∀ l ∈ last, l.1 = e.uid) ∧
      (live.after s kind e).layers s t = Entries.erase (live.layers s t) e.uid ++ last.toList := by
  rw [fragmentOf?_after_self] at hchanged
  cases e with
  | added r => exact ⟨_, fun l hl => layer?_name hl, layers_file live.entries r.uid (kind, r)⟩
  | updated old new =>
    obtain ⟨huid, hlive⟩ := ha
    have hold : live.fragmentOf? s new.uid = s.fragment? kind old := by simp [fragmentOf?, huid, hlive]
    have hfragment : s.fragment? kind old ≠ s.fragment? kind new := fun hsame => hchanged (hold.trans hsame)
    refine ⟨layer? s t (new.uid, kind, new), fun l hl => layer?_name hl, ?_⟩
    rw [LiveResources.after, if_neg hfragment]
    exact layers_file live.entries new.uid (kind, new)
  | deleted r unknown =>
    refine ⟨none, by simp, ?_⟩
    exact (layers_erase live.entries r.uid).trans (List.append_nil _).symm

/-! ## Histories -/

theorem afterAll_snoc (live : LiveResources) (s : LabelSelector) (events : List (ResourceKind × ResourceEvent))
    (e : ResourceKind × ResourceEvent) : live.afterAll s (events ++ [e]) = (live.afterAll s events).after s e.1 e.2 := by
  rw [afterAll, afterAll, List.foldl_append]
  rfl

/-- A history is well-formed when all but its last event are, and this one is after them. -/
theorem admitsAll_snoc {events : List (ResourceKind × ResourceEvent)} {e : ResourceKind × ResourceEvent} :
    live.AdmitsAll s (events ++ [e]) ↔ live.AdmitsAll s events ∧ (live.afterAll s events).Admits e.1 e.2 := by
  induction events generalizing live with
  | nil =>
    change live.Admits e.1 e.2 ∧ True ↔ True ∧ live.Admits e.1 e.2
    exact and_comm
  | cons first events ih =>
    rw [List.cons_append, AdmitsAll, AdmitsAll, ih, and_assoc]
    rfl

/-- The last event of a history is the last change when it changes the fragment, else the last change is where it was. -/
theorem lastChange_snoc (s : LabelSelector) (uid : String) (live : LiveResources)
    (events : List (ResourceKind × ResourceEvent)) (e : ResourceKind × ResourceEvent) :
    live.lastChange s uid (events ++ [e]) =
      if (live.afterAll s events).fragmentOf? s uid = (live.afterAll s (events ++ [e])).fragmentOf? s uid then
        live.lastChange s uid events
      else events.length + 1 := by
  induction events generalizing live with
  | nil => rfl
  | cons first events ih =>
    have hcons : ∀ rest, live.afterAll s (first :: rest) = (live.after s first.1 first.2).afterAll s rest := fun _ => rfl
    rw [List.cons_append, hcons, hcons, lastChange, ih]
    by_cases hsame : ((live.after s first.1 first.2).afterAll s events).fragmentOf? s uid =
        ((live.after s first.1 first.2).afterAll s (events ++ [e])).fragmentOf? s uid
    · rw [if_pos hsame, if_pos hsame, lastChange]
    · rw [if_neg hsame, if_neg hsame]
      rfl

/-- The last change of a fragment is an event of the history. -/
theorem lastChange_le (s : LabelSelector) (uid : String) (live : LiveResources)
    (events : List (ResourceKind × ResourceEvent)) : live.lastChange s uid events ≤ events.length := by
  induction events generalizing live with
  | nil => exact Nat.le_refl 0
  | cons first events ih =>
    have hrest := ih (live.after s first.1 first.2)
    rw [lastChange, List.length_cons]
    split
    · split <;> omega
    · omega

/-- What lives stays well-formed in every history. -/
theorem WellFormed.afterAll (h : live.WellFormed) (s : LabelSelector) (events : List (ResourceKind × ResourceEvent)) :
    (live.afterAll s events).WellFormed := by
  induction events generalizing live with
  | nil => exact h
  | cons e events ih => exact ih (h.after s e.1 e.2)

/-- The layers of a tenant stand in the order in which the fragments of their resources last changed. -/
theorem layers_pairwise_lastChange {events : List (ResourceKind × ResourceEvent)} (hwf : empty.AdmitsAll s events)
    (t : TenantId) : ((empty.afterAll s events).layers s t).Pairwise fun a b =>
      empty.lastChange s a.1 events < empty.lastChange s b.1 events := by
  induction events using List.reverseRecOn with
  | nil => exact List.Pairwise.nil
  | append_singleton events e ih =>
    obtain ⟨hwf, ha⟩ := admitsAll_snoc.1 hwf
    have hordered := ih hwf
    have hsnoc := fun uid => lastChange_snoc s uid empty events e
    rw [afterAll_snoc] at hsnoc ⊢
    have hother : ∀ uid, e.2.uid ≠ uid → empty.lastChange s uid (events ++ [e]) = empty.lastChange s uid events := by
      intro uid hne
      rw [hsnoc, if_pos (fragmentOf?_after_of_ne hne).symm]
    by_cases hsame : (empty.afterAll s events).fragmentOf? s e.2.uid =
        ((empty.afterAll s events).after s e.1 e.2).fragmentOf? s e.2.uid
    · have hall : ∀ uid, empty.lastChange s uid (events ++ [e]) = empty.lastChange s uid events := by
        intro uid
        by_cases hne : e.2.uid = uid
        · rw [← hne, hsnoc, if_pos hsame]
        · exact hother uid hne
      rw [(wellFormed_empty.afterAll s events).layers_after_same ha hsame t]
      simpa only [hall] using hordered
    · have hself : empty.lastChange s e.2.uid (events ++ [e]) = events.length + 1 := by rw [hsnoc, if_neg hsame]
      have hkept : ∀ l ∈ Entries.erase ((empty.afterAll s events).layers s t) e.2.uid,
          empty.lastChange s l.1 (events ++ [e]) = empty.lastChange s l.1 events :=
        fun l hl => hother l.1 (Entries.mem_erase.1 hl).2.symm
      obtain ⟨last, hlast, hlayers⟩ := layers_after_changed ha hsame t
      rw [hlayers]
      refine List.pairwise_append.2 ⟨?_, ?_, ?_⟩
      · refine (hordered.sublist List.filter_sublist).imp_of_mem fun ha hb hlt => ?_
        rw [hkept _ ha, hkept _ hb]
        exact hlt
      · cases last <;> simp
      · intro l hl x hx
        have hx : x.1 = e.2.uid := hlast x (by simpa using hx)
        have hle := lastChange_le s l.1 empty events
        rw [hkept l hl, hx, hself]
        omega

/-! ## Layers and fragments -/

/-- A tenant has a layer of a uid exactly when the live resource of that uid contributes it. -/
theorem WellFormed.get?_layers_eq_some_iff (h : live.WellFormed) {t : TenantId} {properties : Properties} :
    Entries.get? (live.layers s t) uid = some properties ↔ live.fragmentOf? s uid = some ⟨uid, t, properties⟩ := by
  rw [h.get?_layers, fragmentOf?]
  cases hlive : live.get? uid with
  | none => simp
  | some e =>
    obtain ⟨kind, r⟩ := e
    have hr : r.uid = uid := h.uid _ (Entries.mem_of_get? hlive)
    rw [Option.bind_some, Option.bind_some]
    cases hf : s.fragment? kind r with
    | none => simp [layer?_of_fragment?_none hf]
    | some f =>
      have hid : f.id = uid := (LabelSelector.fragment?_eq_some hf).1.trans hr
      obtain ⟨id, tenant, values⟩ := f
      obtain rfl : id = uid := hid
      by_cases ht : tenant = t <;> simp [layer?_of_fragment? hf, ht]

/-- A tenant has no layers exactly when no live resource contributes a fragment to it. -/
theorem WellFormed.layers_eq_nil_iff (h : live.WellFormed) {t : TenantId} :
    live.layers s t = [] ↔ ∀ uid f, live.fragmentOf? s uid = some f → f.tenant ≠ t := by
  constructor
  · rintro hnil uid ⟨id, tenant, properties⟩ hf rfl
    obtain ⟨⟨kind, r⟩, hlive, hr⟩ := Option.bind_eq_some_iff.1 hf
    have hid : id = uid := (LabelSelector.fragment?_eq_some hr).1.trans (h.uid _ (Entries.mem_of_get? hlive))
    have hget := h.get?_layers_eq_some_iff.2 (hid ▸ hf)
    rw [hnil] at hget
    nomatch hget
  · intro hnone
    refine List.eq_nil_iff_forall_not_mem.2 fun l hl => ?_
    cases hget : Entries.get? (live.layers s t) l.1 with
    | none => exact Entries.get?_eq_none_iff.1 hget l hl rfl
    | some properties => exact hnone l.1 _ (h.get?_layers_eq_some_iff.1 hget) rfl

end LiveResources

namespace Sync

variable {s : Sync} {live : LiveResources}

/-- A well-formed history is handled event by event, and none is refused. -/
theorem Follows.run (h : s.Follows live) {ops : List SyncOp} (hwf : live.AdmitsAll s.selector (ops.map SyncOp.report)) :
    (performAll perform s ops).2.selector = s.selector ∧
    (performAll perform s ops).2.Follows (live.afterAll s.selector (ops.map SyncOp.report)) ∧
    ∀ answer ∈ (performAll perform s ops).1, ∃ outcome, answer = .ok outcome := by
  induction ops generalizing s live with
  | nil => exact ⟨rfl, h, fun answer ha => nomatch ha⟩
  | cons op ops ih =>
    obtain ⟨ha, hrest⟩ : live.Admits op.kind op.event ∧ _ := hwf
    obtain ⟨outcome, s', hhandle, hselector, -, hfollows⟩ := h.handle ha op.order
    have hperform : s.perform op = (.ok outcome, s') := by rw [perform, hhandle]
    obtain ⟨hselector', hfollows', hanswers⟩ := ih hfollows (hselector.symm ▸ hrest)
    rw [hselector] at hselector' hfollows'
    rw [performAll_cons, hperform]
    refine ⟨hselector', hfollows', fun answer hanswer => ?_⟩
    rcases List.mem_cons.1 hanswer with rfl | hanswer
    · exact ⟨outcome, rfl⟩
    · exact hanswers answer hanswer

/-- After every well-formed history of resource events, in whatever order the events of different resources come and whatever the
final states of deleted resources are, no event was refused, and the configuration of a tenant has exactly one layer for every live
resource whose present state maps to a fragment of the tenant: named by the uid of the resource, with the properties of that
fragment, in the order in which these fragments last changed. A tenant without such a resource has no configuration. -/
theorem run_composes_live_fragments (capacity : Nat) (s : LabelSelector) (ops : List SyncOp)
    (hwf : LiveResources.empty.AdmitsAll s (ops.map SyncOp.report)) :
    let run := performAll perform (.new (.new capacity) s) ops
    let history := ops.map SyncOp.report
    let live := LiveResources.empty.afterAll s history
    (∀ answer ∈ run.1, ∃ outcome, answer = .ok outcome) ∧
    ∀ t,
      (run.2.composer.configuration? t = none ↔ ∀ uid f, live.fragmentOf? s uid = some f → f.tenant ≠ t) ∧
      ∀ c, run.2.composer.configuration? t = some c →
        (∀ uid properties, c.layer? uid = some properties ↔ live.fragmentOf? s uid = some ⟨uid, t, properties⟩) ∧
        c.fragmentIds.Pairwise fun u v =>
          LiveResources.empty.lastChange s u history < LiveResources.empty.lastChange s v history := by
  intro run history live
  obtain ⟨hselector, hfollows, hanswers⟩ := (follows_new capacity s).run hwf
  have hselector : run.2.selector = s := hselector
  have hconfiguration : ∀ t, run.2.composer.configuration? t = Configuration.ofLayers? (live.layers s t) := by
    intro t
    rw [hfollows.carries.configuration t, hselector]
    rfl
  have hlive : live.WellFormed := hfollows.wellFormed
  refine ⟨hanswers, fun t => ⟨?_, fun c hc => ?_⟩⟩
  · rw [hconfiguration t, ← hlive.layers_eq_nil_iff]
    cases live.layers s t <;> simp [Configuration.ofLayers?]
  · have hc : c.layers = live.layers s t := by
      rw [hconfiguration t] at hc
      rw [← Configuration.layers_getD_ofLayers? (live.layers s t), hc]
      rfl
    refine ⟨fun uid properties => ?_, ?_⟩
    · rw [Configuration.layer?, hc]
      exact hlive.get?_layers_eq_some_iff
    · rw [Configuration.fragmentIds, hc, List.pairwise_map]
      exact LiveResources.layers_pairwise_lastChange hwf t

/-- Two resources of a tenant, of which the first changes after the second was added, and a third one that is deleted with other
labels than it had: two layers are left, that of the first resource last. -/
theorem run_composes_live_fragments_relabelled :
    let a : TenantId := ⟨"a", by decide⟩
    let b : TenantId := ⟨"b", by decide⟩
    let s : LabelSelector := ⟨"tenant", "kind", "config"⟩
    let resource (uid tenant value : String) : Resource :=
      ⟨uid, "r", .ofList [("kind", "config"), ("tenant", tenant)], .ofList [("k", value)]⟩
    let ops : List SyncOp := [
      ⟨.configMap, .added (resource "u" "b" "1"), []⟩,
      ⟨.secret, .added (resource "v" "a" "Mg=="), []⟩,
      ⟨.configMap, .added (resource "w" "a" "3"), []⟩,
      ⟨.configMap, .updated (resource "u" "b" "1") (resource "u" "a" "1"), []⟩,
      ⟨.configMap, .deleted (resource "w" "b" "3") true, [b]⟩]
    let run := performAll perform (.new (.new 1) s) ops
    let history := ops.map SyncOp.report
    run.2.composer.configuration? a = some ⟨[("v", .ofList [("k", "2")]), ("u", .ofList [("k", "1")])]⟩ ∧
      run.2.composer.configuration? b = none ∧
      (LiveResources.empty.afterAll s history).fragmentOf? s "u" = some ⟨"u", a, .ofList [("k", "1")]⟩ ∧
      LiveResources.empty.lastChange s "v" history < LiveResources.empty.lastChange s "u" history := by
  intro a b s resource ops run history
  have hwf : LiveResources.empty.AdmitsAll s history :=
    ⟨rfl, rfl, rfl, ⟨rfl, rfl⟩, ⟨resource "w" "a" "3", rfl⟩, trivial⟩
  have hconfiguration : run.2.composer.configuration? a =
      some ⟨[("v", .ofList [("k", "2")]), ("u", .ofList [("k", "1")])]⟩ := by decide
  have hnone : run.2.composer.configuration? b = none := by decide
  obtain ⟨-, htenants⟩ := run_composes_live_fragments 1 s ops hwf
  obtain ⟨hlayers, horder⟩ := (htenants a).2 _ hconfiguration
  exact ⟨hconfiguration, hnone, (hlayers "u" _).1 (by decide), by simpa [Configuration.fragmentIds] using horder⟩

end Sync

end TenantGateway
