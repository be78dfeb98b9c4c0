import TenantGateway.Proofs.Run
import TenantGateway.Proofs.Sync.Effect
import TenantGateway.Proofs.Sync.Handling

/-!
# Handling an event touches only its own layers

Whatever way an event about one resource is handled, every tenant keeps its other layers as they are. An addition or an update publishes
at most two changes, and two only when it takes the resource to another tenant. An event that is suppressed or skipped leaves the
composer as it is (`Sync.handle_touches_own_layers`); so a resync, which sends every resource once more as it was, does nothing.
-/

namespace TenantGateway

namespace ResourceEvent

variable {selector : LabelSelector} {kind : ResourceKind} {e : ResourceEvent}

/-- An event about one resource starts from the uid that it leads to. -/
theorem priorUid_eq (h : e.KeepsUid) : e.priorUid = e.uid := by
  cases e with
  | added r => rfl
  | updated old new => exact h
  | deleted r unknown => rfl

/-- The fragment that a resource contributes after an event is named for it. -/
theorem id_of_current? {f : Fragment} (h : e.current? selector kind = some f) : f.id = e.uid := by
  cases e with
  | added r => exact (LabelSelector.fragment?_eq_some h).1
  | updated old new => exact (LabelSelector.fragment?_eq_some h).1
  | deleted r unknown => nomatch h

end ResourceEvent

namespace Sync

variable {s : Sync} {kind : ResourceKind} {e : ResourceEvent} {outcome : SyncOutcome} {composer : Composer}

/-- Every tenant keeps the layers of other resources, in their order. -/
theorem Handled.erase_layers (h : s.Handled kind e outcome composer) (huid : e.KeepsUid) (t : TenantId) :
    Entries.erase (composer.layersOf t) e.uid = Entries.erase (s.composer.layersOf t) e.uid := by
  rw [← ResourceEvent.priorUid_eq huid]
  cases h with
  | skipped => rfl
  | suppressed => rfl
  | merged hcurrent hloses _ _ hmerge =>
    have hid := (ResourceEvent.id_of_current? hcurrent).trans (ResourceEvent.priorUid_eq huid).symm
    rw [← hloses.erase_layers t, ← hid]
    exact Composer.erase_layersOf_of_merge hmerge t
  | left _ _ hid hrevoke =>
    rw [← hid]
    exact (Composer.loses_revoke hrevoke).erase_layers t
  | withdrawn hdeleted hloses =>
    subst hdeleted
    exact hloses.erase_layers t

/-- Unless it is a deletion, an event publishes at most two changes, and two only when it moves its resource. -/
theorem Handled.published (h : s.Handled kind e outcome composer) :
    ∃ changes, composer.feed.published = s.composer.feed.published ++ changes ∧
      ((∀ r unknown, e ≠ .deleted r unknown) → changes.length ≤ 2 ∧ (changes.length = 2 → e.Moves s.selector kind)) := by
  cases h with
  | skipped => exact ⟨[], (List.append_nil _).symm, fun _ => ⟨by decide, fun h => nomatch h⟩⟩
  | suppressed => exact ⟨[], (List.append_nil _).symm, fun _ => ⟨by decide, fun h => nomatch h⟩⟩
  | merged _ hloses hlost hmoves hmerge =>
    obtain ⟨changes, hrevokes, hlength⟩ := hloses.exists_published
    obtain ⟨change, hput, -⟩ := Composer.published_of_merge hmerge
    have htotal : (changes ++ [change]).length = changes.length + 1 := List.length_append
    refine ⟨changes ++ [change], by rw [hput, hrevokes, List.append_assoc], fun _ => ⟨by omega, fun htwo => hmoves ?_⟩⟩
    rintro rfl
    rw [htotal, hlength] at htwo
    nomatch htwo
  | @left f any _ _ _ _ hrevoke =>
    obtain ⟨changes, hrevokes, hlength⟩ := (Composer.loses_revoke hrevoke).exists_published
    have hone : changes.length ≤ 1 := by
      rw [hlength]
      cases any <;> simp
    exact ⟨changes, hrevokes, fun _ => ⟨by omega, fun htwo => by omega⟩⟩
  | @withdrawn r unknown lost _ hdeleted hloses _ =>
    obtain ⟨changes, hrevokes, -⟩ := hloses.published
    exact ⟨changes, hrevokes, fun hnot => absurd hdeleted (hnot r unknown)⟩

/-- An event that is suppressed or skipped leaves the composer as it is. -/
theorem Handled.eq_composer (h : s.Handled kind e outcome composer) (hnothing : outcome = .suppressed ∨ outcome = .skipped) :
    composer = s.composer := by
  cases h with
  | skipped => rfl
  | suppressed => rfl
  | merged => nomatch hnothing
  | left => nomatch hnothing
  | withdrawn => nomatch hnothing

/-- An update that sends a resource again as it was is suppressed, or skipped when the resource contributes nothing. -/
theorem handle_resent (s : Sync) (kind : ResourceKind) (r : Resource) (order : List TenantId) :
    ∃ outcome s', s.handle kind (.updated r r) order = .ok (outcome, s') ∧ (outcome = .suppressed ∨ outcome = .skipped) := by
  rw [handle]
  cases s.fragment? kind r with
  | none => exact ⟨_, _, rfl, Or.inr rfl⟩
  | some f =>
    rw [update, if_pos rfl]
    exact ⟨_, _, rfl, Or.inl rfl⟩

/-- A resync does nothing. -/
theorem performAll_resent {ops : List SyncOp} (hops : ∀ op ∈ ops, ∃ r, op.event = .updated r r) (s : Sync) :
    (∀ answer ∈ (performAll perform s ops).1, answer = .ok .suppressed ∨ answer = .ok .skipped) ∧
      (performAll perform s ops).2.composer = s.composer := by
  induction ops generalizing s with
  | nil => exact ⟨fun _ hanswer => (nomatch hanswer), rfl⟩
  | cons op ops ih =>
    obtain ⟨r, hevent⟩ := hops op List.mem_cons_self
    obtain ⟨outcome, s', hhandle, hnothing⟩ := s.handle_resent op.kind r op.order
    have hperform : s.perform op = (.ok outcome, s') := by
      rw [perform, hevent, hhandle]
    obtain ⟨hanswers, hcomposer⟩ := ih (fun op' hop => hops op' (List.mem_cons_of_mem op hop)) s'
    rw [performAll_cons, hperform]
    refine ⟨fun answer hanswer => ?_, hcomposer.trans ((handled hhandle).eq_composer hnothing)⟩
    rcases List.mem_cons.1 hanswer with rfl | hanswer
    · exact hnothing.imp (congrArg _) (congrArg _)
    · exact hanswers answer hanswer

/-- On an open composer, every event about one resource is handled. It leaves every tenant the layers of other resources with their names
and properties, in their order; unless it is a deletion, it publishes at most two changes, and two only when it moves its resource to
another tenant; and when it is suppressed or skipped, the composer is what it was, so that no layer has moved and nothing was published.
Updates that send resources again as they were, of whatever resources and in whatever order and number, are all suppressed or skipped
and leave the composer what it was. -/
theorem handle_touches_own_layers (s : Sync) (hopen : s.composer.feed.closed = false) :
    (∀ kind e order, e.KeepsUid → ∃ outcome s', s.handle kind e order = .ok (outcome, s') ∧
      (∀ t, Entries.erase (s'.composer.layersOf t) e.uid = Entries.erase (s.composer.layersOf t) e.uid) ∧
      (∃ changes, s'.composer.feed.published = s.composer.feed.published ++ changes ∧
        ((∀ r unknown, e ≠ .deleted r unknown) → changes.length ≤ 2 ∧ (changes.length = 2 → e.Moves s.selector kind))) ∧
      (outcome = .suppressed ∨ outcome = .skipped → s'.composer = s.composer)) ∧
    ∀ ops : List SyncOp, (∀ op ∈ ops, ∃ r, op.event = .updated r r) →
      (∀ answer ∈ (performAll perform s ops).1, answer = .ok .suppressed ∨ answer = .ok .skipped) ∧
      (performAll perform s ops).2.composer = s.composer := by
  refine ⟨fun kind e order huid => ?_, fun ops hops => performAll_resent hops s⟩
  obtain ⟨outcome, s', hhandle⟩ := exists_handle hopen kind huid order
  have hhandled := handled hhandle
  exact ⟨outcome, s', hhandle, hhandled.erase_layers huid, hhandled.published, hhandled.eq_composer⟩

/-- A resource whose layer stands below another's moves to a tenant with a layer of its own: two changes are published, and both tenants
keep the layers of the other resources. Sent again as it is, it changes nothing. -/
theorem handle_touches_own_layers_moved :
    let a : TenantId := ⟨"a", by decide⟩
    let b : TenantId := ⟨"b", by decide⟩
    let resource (uid tenant : String) : Resource := ⟨uid, "r", .ofList [("kind", "config"), ("tenant", tenant)], .empty⟩
    let s := (performAll perform (.new (.new 1) ⟨"tenant", "kind", "config"⟩)
      [⟨.configMap, .added (resource "u" "a"), []⟩, ⟨.configMap, .added (resource "v" "a"), []⟩,
        ⟨.configMap, .added (resource "w" "b"), []⟩]).2
    s.composer.feed.closed = false ∧
      (∃ s' changes, s.handle .configMap (.updated (resource "u" "a") (resource "u" "b")) [] = .ok (.merged, s') ∧
        Entries.erase (s'.composer.layersOf a) "u" = [("v", .empty)] ∧ Entries.erase (s'.composer.layersOf b) "u" = [("w", .empty)] ∧
        s'.composer.feed.published = s.composer.feed.published ++ changes ∧ changes.length = 2) ∧
      (performAll perform s [⟨.configMap, .updated (resource "u" "a") (resource "u" "a"), []⟩]).2.composer = s.composer := by
  intro a b resource s
  have hopen : s.composer.feed.closed = false := by decide
  obtain ⟨hhandles, hresync⟩ := handle_touches_own_layers s hopen
  obtain ⟨outcome, s', hhandle, hlayers, ⟨changes, hpublished, -⟩, -⟩ :=
    hhandles .configMap (.updated (resource "u" "a") (resource "u" "b")) [] rfl
  have hanswer : (s.handle .configMap (.updated (resource "u" "a") (resource "u" "b")) []).map
      (fun result => (result.1, result.2.composer.feed.published.length)) = .ok (.merged, 5) := by decide
  rw [hhandle] at hanswer
  obtain ⟨rfl, hlength⟩ := Prod.mk.inj (Except.ok.inj hanswer)
  have hbefore : s.composer.feed.published.length = 3 := by decide
  dsimp only at hlength
  rw [hpublished, List.length_append, hbefore] at hlength
  refine ⟨hopen, ⟨s', changes, hhandle, ?_, ?_, hpublished, by omega⟩, (hresync _ ?_).2⟩
  · exact (hlayers a).trans (by decide)
  · exact (hlayers b).trans (by decide)
  · intro op hop
    obtain rfl := List.mem_singleton.1 hop
    exact ⟨_, rfl⟩

end Sync

end TenantGateway
