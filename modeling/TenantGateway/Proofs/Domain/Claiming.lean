import TenantGateway.Proofs.Domain.History

/-!
# Hosts belong to those who claim them alone

Whatever both origins have sent, a host resolves to the only tenant that claims its name, to a collision of all that claim it, or to
nothing (`Resolver.run_resolves_by_claims`). Events about other tenants leave the claims of a tenant alone, so they can contest a host
that it has, but not take it over (`Resolver.run_keeps_owner`).
-/

namespace TenantGateway.Resolver

variable {r : Resolver}

/-! ## Unique claiming -/

/-- The domains of a tenant are the hosts that it claims. -/
theorem mem_domains (r : Resolver) {t : TenantId} {name : String} : name ∈ r.domains t ↔ r.Claims t name := by
  rw [domains, KeySet.mem_ofKeys, List.mem_flatMap]
  constructor
  · rintro ⟨o, -, hname⟩
    cases hr : r.registration? o t with
    | none =>
      rw [hr] at hname
      nomatch hname
    | some registration =>
      rw [hr] at hname
      exact ⟨o, registration, hr, hname⟩
  · rintro ⟨o, registration, hr, hname⟩
    refine ⟨o, by cases o <;> simp, ?_⟩
    rw [hr]
    exact hname

/-- A host collides exactly when several tenants claim its name. -/
theorem Sound.exists_collision_iff (h : r.Sound) {host name : String} (hn : Host.normalize host = some name) :
    (∃ ts, r.owner host = .error (.collision name ts)) ↔ ∃ t t', t ≠ t' ∧ r.Claims t name ∧ r.Claims t' name := by
  obtain ⟨hok, hnone, hcollision⟩ := h.owner_iff_of_normalize hn
  constructor
  · rintro ⟨ts, howner⟩
    obtain ⟨-, hlength, hascending, hmem⟩ := (hcollision name ts).1 howner
    match ts with
    | t :: t' :: rest =>
      have hlt : t.text < t'.text := (List.pairwise_cons.1 hascending).1 t' List.mem_cons_self
      refine ⟨t, t', ?_, (hmem t).1 (by simp), (hmem t').1 (by simp)⟩
      rintro rfl
      exact String.lt_irrefl _ hlt
  · rintro ⟨t, t', hne, ht, ht'⟩
    cases howner : r.owner host with
    | ok owner =>
      have hall := (hok owner).1 howner
      exact absurd (((hall t).1 ht).trans ((hall t').1 ht').symm) hne
    | error e =>
      cases e with
      | noMatch => exact absurd ht (hnone.1 howner t)
      | collision n ts =>
        obtain ⟨rfl, -⟩ := (hcollision n ts).1 howner
        exact ⟨ts, rfl⟩

/-- After any history of both origins: a host without a normalised form resolves to nothing. Any other host resolves to nothing when no
tenant claims its name, that is has it among the hosts registered with one of the origins; to a tenant when this tenant alone does, be
it with both origins; and when several do, to the collision of all of them, in ascending order. The name is among the domains of those
who claim it. -/
theorem run_resolves_by_claims (events : List (Origin × DomainEvent)) (host : String) :
    let r := Resolver.new.run events
    let answer := (r.resolve host).1
    match Host.normalize host with
    | none => answer = .error .noMatch
    | some name =>
      (answer = .error .noMatch ↔ ∀ t, ¬r.Claims t name) ∧
      (∀ t, answer = .ok t ↔ ∀ t', r.Claims t' name ↔ t' = t) ∧
      ((∃ ts, answer = .error (.collision name ts)) ↔ ∃ t t', t ≠ t' ∧ r.Claims t name ∧ r.Claims t' name) ∧
      (∀ n ts, answer = .error (.collision n ts) ↔
        n = name ∧ 2 ≤ ts.length ∧ (ts.Pairwise fun a b => a.text < b.text) ∧ ∀ t, t ∈ ts ↔ r.Claims t name) ∧
      ∀ t, name ∈ r.domains t ↔ r.Claims t name := by
  intro r answer
  have hsound : r.Sound := sound_new.run events
  have hanswer : answer = r.owner host := resolve_fst r host
  rw [hanswer]
  split
  · rename_i hn
    rw [owner, hn]
  · rename_i name hn
    obtain ⟨hok, hnone, hcollision⟩ := hsound.owner_iff_of_normalize hn
    exact ⟨hnone, hok, hsound.exists_collision_iff hn, hcollision, fun t => mem_domains r⟩

/-! ## Contested hosts -/

/-- Events that do not touch a tenant leave its claims alone. -/
theorem Sound.claims_run_iff (h : r.Sound) {t : TenantId} {events : List (Origin × DomainEvent)}
    (hother : ∀ e ∈ events, ¬e.2.Touches t) (name : String) : (r.run events).Claims t name ↔ r.Claims t name := by
  have hhosts : ∀ o, (r.run events).hosts? o t = r.hosts? o t := by
    intro o
    rw [h.hosts?_run]
    refine DomainEvent.foldl_leaves_of_not_touches (fun e he => ?_) _
    obtain ⟨tagged, htagged, rfl⟩ := List.mem_map.1 he
    exact hother tagged (List.mem_filter.1 htagged).1
  simp only [claims_iff_hosts?, hhosts]

/-- Let a host resolve to a tenant after some history, and let puts and deletes about other tenants follow, from either origin. After any
part of them the host still resolves to the tenant, or to a collision in which it takes part, and it resolves to the tenant exactly when
no other tenant claims the name of the host. -/
theorem run_keeps_owner (events more : List (Origin × DomainEvent)) (host : String) (t : TenantId)
    (howner : ((Resolver.new.run events).resolve host).1 = .ok t) (hother : ∀ e ∈ more, ¬e.2.Touches t) :
    ∃ name, Host.normalize host = some name ∧ ∀ part, part <+: more →
      let r := (Resolver.new.run events).run part
      let answer := (r.resolve host).1
      (answer = .ok t ∨ ∃ ts, answer = .error (.collision name ts) ∧ t ∈ ts) ∧
      (answer = .ok t ↔ ∀ t', t' ≠ t → ¬r.Claims t' name) := by
  have hsound : (Resolver.new.run events).Sound := sound_new.run events
  rw [resolve_fst] at howner
  obtain ⟨name, hn, hclaims⟩ := ((hsound.owner_iff host).1 t).1 howner
  refine ⟨name, hn, fun part hpart => ?_⟩
  intro r answer
  have hr : r.Sound := hsound.run part
  have hanswer : answer = r.owner host := resolve_fst r host
  have hkept : r.Claims t name :=
    (hsound.claims_run_iff (fun e he => hother e (hpart.subset he)) name).2 ((hclaims t).2 rfl)
  rw [hanswer]
  refine ⟨(hr.owner_names_iff hn t).2 hkept, ?_⟩
  rw [(hr.owner_iff_of_normalize hn).1 t]
  constructor
  · exact fun hall t' hne ht' => hne ((hall t').1 ht')
  · intro hnone t'
    refine ⟨fun ht' => by_contra fun hne => hnone t' hne ht', ?_⟩
    rintro rfl
    exact hkept

/-- Another tenant registers the host with a port, and drops it for one of its own: the host collides in between, and resolves to its
tenant again once nobody else claims it. -/
theorem run_keeps_owner_contested :
    let a : TenantId := ⟨"a", by decide⟩
    let b : TenantId := ⟨"b", by decide⟩
    let events : List (Origin × DomainEvent) := [(.feed, .put (.ofHosts a ["shop.example"]))]
    let contest : Origin × DomainEvent := (.configuration, .put (.ofHosts b ["Shop.Example:80", "b.example"]))
    let more := [contest, (.feed, .delete b), (.configuration, .put (.ofHosts b ["b.example"]))]
    let r := Resolver.new.run events
    let answer (part : List (Origin × DomainEvent)) := ((r.run part).resolve "SHOP.example.").1
    (r.resolve "SHOP.example.").1 = .ok a ∧ (∀ e ∈ more, ¬e.2.Touches a) ∧
      answer [contest] = .error (.collision "shop.example" [a, b]) ∧
      (∀ t, t ≠ a → ¬(r.run more).Claims t "shop.example") ∧ answer more = .ok a := by
  intro a b events contest more r answer
  have howner : (r.resolve "SHOP.example.").1 = .ok a := by decide +kernel
  have hother : ∀ e ∈ more, ¬e.2.Touches a := by decide
  have halone : ∀ t, t ≠ a → ¬(r.run more).Claims t "shop.example" := by
    intro t hne hclaims
    have hmem := ((sound_new.run events).run more).mem_claimants.2 hclaims
    rw [show (r.run more).claimants "shop.example" = [a] by decide +kernel] at hmem
    exact hne (List.mem_singleton.1 hmem)
  obtain ⟨name, hn, hparts⟩ := run_keeps_owner events more "SHOP.example." a howner hother
  obtain rfl : name = "shop.example" := Option.some.inj (hn.symm.trans (by decide))
  exact ⟨howner, hother, by decide +kernel, halone, (hparts more (List.prefix_refl more)).2.2 halone⟩

end TenantGateway.Resolver
