import TenantGateway.Proofs.Sync.Handling

/-!
# What a reported revoke has done

An event that is answered with a revoke has taken layers of its resource and no others, one change published and one revoke counted
for each of them. A deletion reports a revoke only when it took one. An update to a resource that contributes nothing any more reports
one in any case, also when the tenant that its old state names held no layer of it (`Sync.RevokesInVain`), for the answer of the
composer is not looked at; in this case alone nothing was taken (`Sync.reported_revoke_takes_layers_iff`).
-/

namespace TenantGateway

namespace Sync

/-- An update leads from a fragment to none, and the tenant of the fragment does not hold its layer. -/
def RevokesInVain (s : Sync) (kind : ResourceKind) (e : ResourceEvent) : Prop :=
  e.current? s.selector kind = none ∧
    ∃ previous, e.previous? s.selector kind = some previous ∧ s.composer.holds previous.tenant previous.id = false

variable {s : Sync} {kind : ResourceKind} {e : ResourceEvent} {outcome : SyncOutcome} {composer : Composer}

/-- An event that revokes in vain reports a revoke all the same. -/
theorem Handled.eq_revoked (h : s.Handled kind e outcome composer) (hvain : s.RevokesInVain kind e) : outcome = .revoked := by
  obtain ⟨hnone, previous, hsome, -⟩ := hvain
  cases h with
  | skipped hprevious => nomatch hsome.symm.trans hprevious
  | suppressed _ hcurrent => nomatch hnone.symm.trans hcurrent
  | merged hcurrent => nomatch hnone.symm.trans hcurrent
  | left => rfl
  | withdrawn => rfl

/-- An event after which its resource contributes nothing is skipped or reports a revoke. -/
theorem Handled.skipped_or_revoked (h : s.Handled kind e outcome composer) (hnone : e.current? s.selector kind = none) :
    outcome = .skipped ∨ outcome = .revoked := by
  cases h with
  | skipped => exact Or.inl rfl
  | suppressed _ hcurrent => nomatch hnone.symm.trans hcurrent
  | merged hcurrent => nomatch hnone.symm.trans hcurrent
  | left => exact Or.inr rfl
  | withdrawn => exact Or.inr rfl

/-- A reported revoke has only taken layers of its resource, and none exactly when it was in vain. -/
theorem Handled.loses (h : s.Handled kind e .revoked composer) :
    ∃ lost, s.composer.Loses e.priorUid lost composer ∧ (lost = [] ↔ s.RevokesInVain kind e) := by
  cases h with
  | @left f any _ hprevious hcurrent hid hrevoke =>
    refine ⟨_, hid ▸ Composer.loses_revoke hrevoke, ?_⟩
    have hany := (Composer.holds_of_revoke hrevoke).1
    constructor
    · intro hnil
      refine ⟨hcurrent, f, hprevious, ?_⟩
      rw [← hany]
      simpa using hnil
    · rintro ⟨-, previous, hsome, hnot⟩
      obtain rfl := Option.some.inj (hprevious.symm.trans hsome)
      rw [hany, hnot]
      rfl
  | withdrawn hdeleted hloses hlost =>
    subst hdeleted
    exact ⟨_, hloses, iff_of_false hlost fun hvain => nomatch hvain.2⟩

/-- When an event is answered with a revoke, the layers that tenants have lost are layers of its resource, under the uid that the event
starts from; one change was published about each tenant that has lost one, no other change was published, and the count of revokes has
grown by their number. At least one tenant has lost one exactly unless the event revokes in vain: an update from a fragment whose
tenant does not hold its layer to no fragment. And exactly unless it does, an event after which the resource contributes nothing, and
by which nobody has lost a layer, is skipped. -/
theorem reported_revoke_takes_layers_iff (s s' : Sync) (kind : ResourceKind) (e : ResourceEvent) (order : List TenantId)
    (outcome : SyncOutcome) (h : s.handle kind e order = .ok (outcome, s')) :
    let lost := s.composer.losers e.priorUid s'.composer
    (outcome = .revoked →
      (∀ t id, s.composer.holds t id = true → s'.composer.holds t id = false → id = e.priorUid) ∧
      (∃ changes, s'.composer.feed.published = s.composer.feed.published ++ changes ∧
        (changes.map Change.key?).Perm (lost.map some)) ∧
      s'.composer.metrics.count .revokes = s.composer.metrics.count .revokes + lost.length) ∧
    ((outcome = .revoked → lost ≠ []) ↔ ¬s.RevokesInVain kind e) ∧
    ((e.current? s.selector kind = none → lost = [] → outcome = .skipped) ↔ ¬s.RevokesInVain kind e) := by
  intro lost
  have hhandled := handled h
  have hvain : outcome = .revoked → (lost = [] ↔ s.RevokesInVain kind e) := by
    rintro rfl
    obtain ⟨tenants, hloses, hiff⟩ := hhandled.loses
    rw [← hiff, ← List.length_eq_zero_iff, hloses.losers_perm.length_eq, List.length_eq_zero_iff]
  refine ⟨?_, ⟨fun hsome hin => ?_, fun hnot hrevoked hnil => ?_⟩, ⟨fun hskipped hin => ?_, fun hnot hnone hnil => ?_⟩⟩
  · rintro rfl
    obtain ⟨tenants, hloses, -⟩ := hhandled.loses
    have hperm : lost.Perm tenants := hloses.losers_perm
    refine ⟨fun t id hbefore hafter => ?_, ?_, ?_⟩
    · rw [hloses.holds, hbefore] at hafter
      split at hafter
      · rename_i hboth
        exact hboth.2.symm
      · nomatch hafter
    · obtain ⟨changes, hpublished, hkeys⟩ := hloses.published
      exact ⟨changes, hpublished, hkeys ▸ (hperm.map some).symm⟩
    · rw [hloses.counted, hperm.length_eq]
  · have hrevoked := hhandled.eq_revoked hin
    exact hsome hrevoked ((hvain hrevoked).2 hin)
  · exact hnot ((hvain hrevoked).1 hnil)
  · have hrevoked := hhandled.eq_revoked hin
    nomatch hrevoked.symm.trans (hskipped hin.1 ((hvain hrevoked).2 hin))
  · rcases hhandled.skipped_or_revoked hnone with hskipped | hrevoked
    · exact hskipped
    · exact absurd ((hvain hrevoked).1 hnil) hnot

/-- The deletion, without labels, of a resource that two tenants hold takes two layers, with a change published and a revoke counted
for each. -/
theorem reported_revoke_takes_layers_iff_twice :
    let s : LabelSelector := ⟨"tenant", "kind", "config"⟩
    let resource (tenant : String) : Resource := ⟨"u", "r", .ofList [("kind", "config"), ("tenant", tenant)], .empty⟩
    let run := performAll perform (.new (.new 1) s)
      [⟨.configMap, .added (resource "a"), []⟩, ⟨.configMap, .added (resource "b"), []⟩]
    ∃ s' changes, run.2.handle .configMap (.deleted ⟨"u", "r", .empty, .empty⟩ true) [] = .ok (.revoked, s') ∧
      run.2.composer.losers "u" s'.composer ≠ [] ∧
      s'.composer.feed.published = run.2.composer.feed.published ++ changes ∧ changes.length = 2 ∧
      s'.composer.metrics.count .revokes = 2 := by
  intro s resource run
  have hlost : (run.2.handle .configMap (.deleted ⟨"u", "r", .empty, .empty⟩ true) []).map
      (fun result => (result.1, (run.2.composer.losers "u" result.2.composer).length)) = .ok (.revoked, 2) := by decide
  have hbefore : run.2.composer.metrics.count .revokes = 0 := by decide
  cases hhandle : run.2.handle .configMap (.deleted ⟨"u", "r", .empty, .empty⟩ true) [] with
  | error e =>
    rw [hhandle] at hlost
    nomatch hlost
  | ok result =>
    obtain ⟨outcome, s'⟩ := result
    rw [hhandle] at hlost
    obtain ⟨rfl, hlost⟩ := Prod.mk.inj (Except.ok.inj hlost)
    obtain ⟨hdone, hsome, -⟩ := reported_revoke_takes_layers_iff _ _ _ _ _ _ hhandle
    obtain ⟨-, ⟨changes, hpublished, hkeys⟩, hcounted⟩ := hdone rfl
    have hlength := hkeys.length_eq
    rw [List.length_map, List.length_map] at hlength
    refine ⟨s', changes, rfl, hsome.2 (fun hvain => nomatch hvain.2) rfl, hpublished, hlength.trans hlost, ?_⟩
    rw [hcounted, hbefore, Nat.zero_add]
    exact hlost

/-- An update of a resource that was never added, from one that contributes configuration to one that does not, reports a revoke.
Nobody has lost a layer, nothing was published and no revoke was counted. -/
theorem reported_revoke_takes_layers_never_added :
    let s : Sync := .new (.new 1) ⟨"tenant", "kind", "config"⟩
    let labelled : Resource := ⟨"u", "r", .ofList [("kind", "config"), ("tenant", "a")], .empty⟩
    ∃ s', s.handle .configMap (.updated labelled ⟨"u", "r", .empty, .empty⟩) [] = .ok (.revoked, s') ∧
      s.composer.losers "u" s'.composer = [] ∧ s'.composer.feed.published = [] ∧ s'.composer.metrics.count .revokes = 0 :=
  ⟨_, rfl, by decide, by decide, by decide⟩

end Sync

end TenantGateway
