import Mathlib.Data.Prod.Lex
import Mathlib.Data.String.Basic
import TenantGateway.Proofs.Catalog
import TenantGateway.Proofs.Domain.Resolver
import TenantGateway.Router

/-!
# Where a request goes

Instances come in the order of their deployments and then of their identities (`ServiceInstance.rank`), and the router chooses the
least one (`Router.least?_eq_some_iff`), so a route is decided by the owner of the host and by the live instances of the owner.
-/

namespace TenantGateway

namespace ServiceInstance

/-- What decides the order of instances: the deployment, then the identity. -/
def rank (i : ServiceInstance) : String ×ₗ String := toLex (i.deployment.text, i.id)

/-- One instance precedes another one when its rank is lower. -/
theorem precedes_iff {i j : ServiceInstance} : i.precedes j = true ↔ i.rank < j.rank := by
  simp only [precedes, rank, Prod.Lex.toLex_lt_toLex, Bool.or_eq_true, Bool.and_eq_true, decide_eq_true_eq, beq_iff_eq]

theorem not_precedes_iff {i j : ServiceInstance} : i.precedes j = false ↔ j.rank ≤ i.rank := by
  rw [← not_lt, ← precedes_iff, Bool.not_eq_true]

/-- The least of some instances is one of those with the lowest rank. -/
theorem isLeast_iff {i : ServiceInstance} {l : List ServiceInstance} : i.IsLeast l ↔ i ∈ l ∧ ∀ j ∈ l, i.rank ≤ j.rank := by
  simp only [IsLeast, not_precedes_iff]

end ServiceInstance

namespace Router

/-- Only of no instances there is no least one. -/
theorem least?_eq_none_iff {l : List ServiceInstance} : least? l = none ↔ l = [] := by
  cases l with
  | nil => simp [least?]
  | cons i rest =>
    unfold least?
    cases least? rest with
    | none => simp
    | some j => by_cases hj : j.precedes i = true <;> simp [hj]

/-- What is chosen is the least instance. -/
theorem isLeast_of_least? {l : List ServiceInstance} {i : ServiceInstance} (h : least? l = some i) : i.IsLeast l := by
  induction l generalizing i with
  | nil => nomatch h
  | cons k rest ih =>
    rw [ServiceInstance.isLeast_iff]
    unfold least? at h
    cases hrest : least? rest with
    | none =>
      rw [hrest] at h
      obtain rfl := Option.some.inj h
      rw [least?_eq_none_iff.1 hrest]
      simp
    | some j =>
      rw [hrest] at h
      obtain ⟨hmem, hle⟩ := ServiceInstance.isLeast_iff.1 (ih hrest)
      dsimp only at h
      split at h
      · rename_i hj
        obtain rfl := Option.some.inj h
        refine ⟨List.mem_cons_of_mem k hmem, fun x hx => ?_⟩
        rcases List.mem_cons.1 hx with rfl | hx
        · exact le_of_lt (ServiceInstance.precedes_iff.1 hj)
        · exact hle x hx
      · rename_i hj
        obtain rfl := Option.some.inj h
        refine ⟨List.mem_cons_self, fun x hx => ?_⟩
        rcases List.mem_cons.1 hx with rfl | hx
        · exact le_refl _
        · exact le_trans (ServiceInstance.not_precedes_iff.1 (Bool.not_eq_true _ ▸ hj)) (hle x hx)

/-- Among instances with distinct identities, in any order, the least one is chosen, and no other. -/
theorem least?_eq_some_iff {l m : List ServiceInstance} (hp : l.Perm m)
    (hid : ∀ i ∈ m, ∀ j ∈ m, i.id = j.id → i = j) {i : ServiceInstance} : least? l = some i ↔ i.IsLeast m := by
  constructor
  · intro h
    obtain ⟨hmem, hle⟩ := isLeast_of_least? h
    exact ⟨hp.mem_iff.1 hmem, fun j hj => hle j (hp.mem_iff.2 hj)⟩
  · intro h
    obtain ⟨hmem, hle⟩ := ServiceInstance.isLeast_iff.1 h
    cases hleast : least? l with
    | none =>
      rw [least?_eq_none_iff.1 hleast] at hp
      exact absurd hmem (by simp [hp.symm.eq_nil])
    | some j =>
      obtain ⟨hmemj, hlej⟩ := ServiceInstance.isLeast_iff.1 (isLeast_of_least? hleast)
      have hrank : i.rank = j.rank := le_antisymm (hle j (hp.mem_iff.1 hmemj)) (hlej i (hp.mem_iff.2 hmem))
      have hsame : i.id = j.id := congrArg (fun r => (ofLex r).2) hrank
      rw [hid i hmem j (hp.mem_iff.1 hmemj) hsame]

/-! ## Routes -/

variable {r : Router} {live : List (String × ServiceInstance)}

theorem route_fst (r : Router) (host : String) : (r.route host).1 = r.select host := rfl

theorem resolver_route (r : Router) (host : String) : (r.route host).2.resolver = (r.resolver.resolve host).2 := rfl

/-- Routing a request leaves the claims and the catalog alone. -/
theorem route_aside (r : Router) (host : String) :
    (r.route host).2.resolver.claims = r.resolver.claims ∧ (r.route host).2.catalog = r.catalog := by
  rw [resolver_route]
  exact ⟨Resolver.claims_resolve r.resolver host, rfl⟩

/-- For a host with an owner the least of its instances is selected, if it has any. -/
theorem select_of_owner {host : String} {t : TenantId} (h : r.resolver.owner host = .ok t) :
    r.select host = (least? (r.catalog.ofTenant t.text)).elim (.error (.noInstances t)) .ok := by
  rw [select, h]
  dsimp only
  cases least? (r.catalog.ofTenant t.text) <;> rfl

/-- For a host that is not resolved nothing is selected. -/
theorem select_of_error {host : String} {e : ResolveError} (h : r.resolver.owner host = .error e) :
    r.select host = .error (.unresolved e) := by
  rw [select, h]

/-- What a request for a host is answered with, by the owner of the host and its live instances. -/
theorem route_iff (hc : r.catalog.Lists live) (host : String) :
    (∀ i, (r.route host).1 = .ok i ↔
      ∃ t, r.resolver.owner host = .ok t ∧ i.IsLeast ((live.map Prod.snd).filter fun i => i.tenant = t)) ∧
    (∀ t, (r.route host).1 = .error (.noInstances t) ↔
      r.resolver.owner host = .ok t ∧ (live.map Prod.snd).filter (fun i => i.tenant = t) = []) ∧
    ∀ e, (r.route host).1 = .error (.unresolved e) ↔ r.resolver.owner host = .error e := by
  rw [route_fst]
  cases howner : r.resolver.owner host with
  | error e =>
    rw [select_of_error howner]
    refine ⟨fun i => ?_, fun t => ?_, fun e' => ?_⟩
    · exact ⟨fun h => (nomatch h), fun ⟨_, h, _⟩ => (nomatch h)⟩
    · exact ⟨fun h => (nomatch h), fun ⟨h, _⟩ => (nomatch h)⟩
    · rw [Except.error.injEq, RouteError.unresolved.injEq, Except.error.injEq]
  | ok t =>
    have hperm := hc.ofTenant_perm t
    have hid : ∀ i ∈ (live.map Prod.snd).filter (fun i => i.tenant = t),
        ∀ j ∈ (live.map Prod.snd).filter (fun i => i.tenant = t), i.id = j.id → i = j :=
      fun i hi j hj => hc.eq_of_id_eq (List.mem_filter.1 hi).1 (List.mem_filter.1 hj).1
    have hsome : ∀ i, least? (r.catalog.ofTenant t.text) = some i ↔ _ := fun i => least?_eq_some_iff hperm hid
    rw [select_of_owner howner]
    refine ⟨fun i => ?_, fun t' => ?_, fun e => ?_⟩
    · have hright : (∃ t', (Except.ok t : Except ResolveError TenantId) = .ok t' ∧
          i.IsLeast ((live.map Prod.snd).filter fun i => i.tenant = t')) ↔
          i.IsLeast ((live.map Prod.snd).filter fun i => i.tenant = t) :=
        ⟨fun ⟨_, he, h⟩ => Except.ok.inj he ▸ h, fun h => ⟨t, rfl, h⟩⟩
      rw [hright, ← hsome]
      cases least? (r.catalog.ofTenant t.text) <;> simp
    · have hnone : least? (r.catalog.ofTenant t.text) = none ↔ (live.map Prod.snd).filter (fun i => i.tenant = t) = [] := by
        rw [least?_eq_none_iff]
        exact ⟨fun h => (h ▸ hperm).symm.eq_nil, fun h => (h ▸ hperm).eq_nil⟩
      constructor
      · intro h
        cases hleast : least? (r.catalog.ofTenant t.text) with
        | some i =>
          rw [hleast] at h
          nomatch h
        | none =>
          rw [hleast] at h
          obtain rfl := RouteError.noInstances.inj (Except.error.inj h)
          exact ⟨rfl, hnone.1 hleast⟩
      · rintro ⟨he, h⟩
        obtain rfl := Except.ok.inj he
        rw [hnone.2 h]
        rfl
    · cases least? (r.catalog.ofTenant t.text) <;> simp

end Router

end TenantGateway
