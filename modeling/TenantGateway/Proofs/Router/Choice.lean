import TenantGateway.Proofs.Domain.Resolver
import TenantGateway.Proofs.Router
import TenantGateway.Proofs.Text.Utf8

/-!
# Choosing among live instances

The rank of an instance compares the bytes of its deployment and its identity (`ServiceInstance.rank_lt_iff`). So the instance that
a request goes to depends on the set of live instances, and not on how a history of discovery came to it
(`Router.route_by_live_instances`).
-/

namespace TenantGateway

namespace ServiceInstance

/-- Ranks compare bytes. -/
theorem rank_lt_iff {i j : ServiceInstance} : i.rank < j.rank ↔ i.IsBefore j := by
  have hdeployment : i.deployment.text = j.deployment.text ↔ i.deployment = j.deployment :=
    ⟨Identifier.eq_of_text_eq, fun h => h ▸ rfl⟩
  simp only [rank, IsBefore, Prod.Lex.toLex_lt_toLex, Text.utf8_lt_iff, hdeployment]

/-- Among instances of which no two have the same identity, the least one comes before all others. -/
theorem isLeast_iff_isBefore {l : List ServiceInstance} (hid : ∀ i ∈ l, ∀ j ∈ l, i.id = j.id → i = j) {i : ServiceInstance} :
    i.IsLeast l ↔ i ∈ l ∧ ∀ j ∈ l, j ≠ i → i.IsBefore j := by
  rw [isLeast_iff]
  refine and_congr_right fun hi => forall₂_congr fun j hj => ?_
  rw [← rank_lt_iff]
  constructor
  · intro hle hne
    refine lt_of_le_of_ne hle fun hrank => hne ?_
    exact (hid i hi j hj (congrArg (fun r => (ofLex r).2) hrank)).symm
  · intro hlt
    by_cases hne : j = i
    · exact hne ▸ le_refl _
    · exact le_of_lt (hlt hne)

end ServiceInstance

namespace Router

variable {r q : Router} {events : List DiscoveryEvent} {host : String} {t : TenantId}

/-- A request for a host of a tenant goes to an instance, or the tenant has none. -/
theorem route_of_owner (howner : r.resolver.owner host = .ok t) :
    (∃ i, (r.route host).1 = .ok i) ∨ (r.route host).1 = .error (.noInstances t) := by
  rw [route_fst, select_of_owner howner]
  cases least? (r.catalog.ofTenant t.text) with
  | none => exact Or.inr rfl
  | some i => exact Or.inl ⟨i, rfl⟩

/-- What a request for a host of a tenant is answered with, by the instances that a history of discovery leaves. -/
theorem route_of_lists (hlists : r.catalog.Lists (DiscoveryEvent.live events)) (howner : r.resolver.owner host = .ok t) :
    let candidate := fun i => DiscoveryEvent.LastAdds events i ∧ i.tenant = t
    (∀ i, (r.route host).1 = .ok i ↔ candidate i ∧ ∀ j, candidate j → j ≠ i → i.IsBefore j) ∧
    ((r.route host).1 = .error (.noInstances t) ↔ ∀ i, ¬candidate i) := by
  intro candidate
  obtain ⟨hok, hnone, -⟩ := route_iff hlists host
  let candidates := ((DiscoveryEvent.live events).map Prod.snd).filter fun i => i.tenant = t
  have hmem : ∀ i, i ∈ candidates ↔ candidate i := fun i => by
    rw [List.mem_filter, DiscoveryEvent.mem_live_iff, decide_eq_true_iff]
  have hid : ∀ i ∈ candidates, ∀ j ∈ candidates, i.id = j.id → i = j := fun i hi j hj =>
    hlists.eq_of_id_eq (List.mem_filter.1 hi).1 (List.mem_filter.1 hj).1
  constructor
  · intro i
    have hleast : i.IsLeast candidates ↔ _ := ServiceInstance.isLeast_iff_isBefore hid
    simp only [hmem] at hleast
    refine (hok i).trans ((Iff.intro ?_ ?_).trans hleast)
    · rintro ⟨t', ht', h⟩
      obtain rfl := Except.ok.inj (howner.symm.trans ht')
      exact h
    · exact fun h => ⟨t, howner, h⟩
  · refine (hnone t).trans ((and_iff_right howner).trans (List.eq_nil_iff_forall_not_mem.trans ?_))
    exact forall_congr' fun i => not_congr (hmem i)

/-- Histories of discovery that leave the same instances route a host alike. -/
theorem route_congr {events' : List DiscoveryEvent} (hresolver : q.resolver = r.resolver)
    (hlists : r.catalog.Lists (DiscoveryEvent.live events)) (hlists' : q.catalog.Lists (DiscoveryEvent.live events'))
    (hsame : ∀ i, DiscoveryEvent.LastAdds events' i ↔ DiscoveryEvent.LastAdds events i) (host : String) :
    (q.route host).1 = (r.route host).1 := by
  cases howner : r.resolver.owner host with
  | error error =>
    rw [route_fst, route_fst, select_of_error howner, select_of_error (hresolver ▸ howner)]
  | ok t =>
    obtain ⟨hok, hnone⟩ := route_of_lists hlists howner
    obtain ⟨hok', hnone'⟩ := route_of_lists hlists' (hresolver ▸ howner)
    simp only [hsame] at hok' hnone'
    rcases route_of_owner howner with ⟨i, hi⟩ | herror
    · exact ((hok' i).2 ((hok i).1 hi)).trans hi.symm
    · exact (hnone'.2 (hnone.1 herror)).trans herror.symm

/-- Whatever discovery reports, blank identities included, a request for a host that the resolver finds a tenant for goes to the
one live instance of the tenant that comes before all others by the bytes of its deployment and then of its identity, and to none
when the tenant has no live instance. So histories that leave the same instances, in whatever order and over whatever moves
between tenants and deployments, route every host alike. -/
theorem route_by_live_instances (resolver : Resolver) (events : List DiscoveryEvent) (metrics : Metrics) :
    let answer := fun events metrics host => ((⟨resolver, Catalog.new.applyAll events, metrics⟩ : Router).route host).1
    (∀ host t, (resolver.resolve host).1 = .ok t →
      let candidate := fun i => DiscoveryEvent.LastAdds events i ∧ i.tenant = t
      (∀ i, answer events metrics host = .ok i ↔ candidate i ∧ ∀ j, candidate j → j ≠ i → i.IsBefore j) ∧
      ((∃ i, candidate i) → ∃ i, answer events metrics host = .ok i) ∧
      (answer events metrics host = .error (.noInstances t) ↔ ∀ i, ¬candidate i)) ∧
    ∀ events' metrics', (∀ i, DiscoveryEvent.LastAdds events' i ↔ DiscoveryEvent.LastAdds events i) →
      ∀ host, answer events' metrics' host = answer events metrics host := by
  intro answer
  constructor
  · intro host t hresolve candidate
    let r : Router := ⟨resolver, Catalog.new.applyAll events, metrics⟩
    have howner : r.resolver.owner host = .ok t := (Resolver.resolve_fst resolver host).symm.trans hresolve
    obtain ⟨hok, hnone⟩ := route_of_lists (r := r) (Catalog.lists_applyAll events) howner
    refine ⟨hok, fun ⟨i, hi⟩ => ?_, hnone⟩
    rcases route_of_owner howner with h | herror
    · exact h
    · exact absurd hi (hnone.1 herror i)
  · intro events' metrics' hsame host
    let r : Router := ⟨resolver, Catalog.new.applyAll events, metrics⟩
    let q : Router := ⟨resolver, Catalog.new.applyAll events', metrics'⟩
    have hlists : r.catalog.Lists _ := Catalog.lists_applyAll events
    have hlists' : q.catalog.Lists _ := Catalog.lists_applyAll events'
    exact route_congr (r := r) (q := q) rfl hlists hlists' hsame host

/-- An instance that moved to the tenant and one that was reported twice are live in either order, the blank one is not; the
deployment decides between them. -/
theorem route_by_live_instances_moved :
    let a : TenantId := ⟨"a", by decide⟩
    let b : TenantId := ⟨"b", by decide⟩
    let i : ServiceInstance := ⟨"i", a, ⟨"e", by decide⟩, "10.0.0.1", 80, false, .empty⟩
    let j : ServiceInstance := ⟨"j", a, ⟨"d", by decide⟩, "10.0.0.2", 80, false, .empty⟩
    let blank : ServiceInstance := ⟨" ", a, ⟨"c", by decide⟩, "10.0.0.3", 80, false, .empty⟩
    let resolver := Resolver.new.apply .feed (.put (.ofHosts a ["x.org"]))
    let events : List DiscoveryEvent := [.add i, .add { j with tenant := b }, .add blank, .add j]
    let events' : List DiscoveryEvent := [.add j, .remove "k", .add i, .add i]
    (resolver.resolve "x.org").1 = .ok a ∧ DiscoveryEvent.LastAdds events j ∧
      (∀ i', DiscoveryEvent.LastAdds events' i' ↔ DiscoveryEvent.LastAdds events i') ∧
      ((⟨resolver, Catalog.new.applyAll events, .empty⟩ : Router).route "x.org").1 = .ok j ∧
      ((⟨resolver, Catalog.new.applyAll events', .empty⟩ : Router).route "x.org").1 = .ok j := by
  intro a b i j blank resolver events events'
  obtain ⟨hroutes, hagrees⟩ := route_by_live_instances resolver events .empty
  have hresolve : (resolver.resolve "x.org").1 = .ok a := by decide
  have hroute : ((⟨resolver, Catalog.new.applyAll events, .empty⟩ : Router).route "x.org").1 = .ok j := by decide
  have hj := (((hroutes "x.org" a hresolve).1 j).1 hroute).1.1
  have hsame : ∀ i', DiscoveryEvent.LastAdds events' i' ↔ DiscoveryEvent.LastAdds events i' := fun i' => by
    have hlive : (DiscoveryEvent.live events').map Prod.snd = [j, i] := by decide
    have hlive' : (DiscoveryEvent.live events).map Prod.snd = [i, j] := by decide
    rw [← DiscoveryEvent.mem_live_iff, ← DiscoveryEvent.mem_live_iff, hlive, hlive', List.mem_pair, List.mem_pair, or_comm]
  exact ⟨hresolve, hj, hsame, hroute, (hagrees events' .empty hsame "x.org").trans hroute⟩

end Router

end TenantGateway
