import TenantGateway.Gateway.Reach
import TenantGateway.Proofs.Domain.Registration
import TenantGateway.Proofs.Router
import TenantGateway.Proofs.Sync

/-!
# What a loaded seed promises

Readiness compares what is stored with what a seed says (`Gateway.seedApplied_iff`). In every reachable state the indices cover what is
stored (`Gateway.Indexed`), so that what is stored is also found: a tenant claims its hosts of the seed and of the configuration
(`Gateway.claims_of_seedApplied`), and requests for a host that only it claims reach an instance (`Gateway.Indexed.route_of_owner`).
-/

namespace TenantGateway

section

variable {α κ : Type} {name : α → κ}

/-- The last occurrences in a list are those in its rest, and its first item when its name does not come again. -/
theorem isLastOccurrence_cons {first : α} {rest : List α} {a : α} :
    IsLastOccurrence name (first :: rest) a ↔
      (first = a ∧ ∀ b ∈ rest, name b ≠ name first) ∨ IsLastOccurrence name rest a := by
  constructor
  · rintro ⟨before, later, hsplit, hlater⟩
    cases before with
    | nil =>
      obtain ⟨rfl, rfl⟩ := List.cons.inj hsplit
      exact Or.inl ⟨rfl, hlater⟩
    | cons x before =>
      obtain ⟨rfl, rfl⟩ := List.cons.inj hsplit
      exact Or.inr ⟨before, later, rfl, hlater⟩
  · rintro (⟨rfl, hrest⟩ | ⟨before, later, rfl, hlater⟩)
    · exact ⟨[], rest, rfl, hrest⟩
    · exact ⟨first :: before, later, rfl, hlater⟩

theorem IsLastOccurrence.mem {l : List α} {a : α} (h : IsLastOccurrence name l a) : a ∈ l := by
  obtain ⟨before, later, rfl, -⟩ := h
  simp

/-- Every item of a list has a last occurrence of its name. -/
theorem exists_isLastOccurrence {l : List α} {a : α} (h : a ∈ l) : ∃ b, IsLastOccurrence name l b ∧ name b = name a := by
  induction l generalizing a with
  | nil => nomatch h
  | cons first rest ih =>
    by_cases hrest : ∃ b ∈ rest, name b = name a
    · obtain ⟨b, hb, hname⟩ := hrest
      obtain ⟨last, hlast, hsame⟩ := ih hb
      exact ⟨last, isLastOccurrence_cons.2 (Or.inr hlast), hsame.trans hname⟩
    · obtain rfl : a = first := (List.mem_cons.1 h).resolve_right fun hmem => hrest ⟨a, hmem, rfl⟩
      exact ⟨a, isLastOccurrence_cons.2 (Or.inl ⟨rfl, fun b hb hname => hrest ⟨b, hb, hname⟩⟩), rfl⟩

/-- An item is listed as a last occurrence when no later one has its name. -/
theorem mem_lastOccurrences [DecidableEq κ] {l : List α} {a : α} :
    a ∈ lastOccurrences name l ↔ IsLastOccurrence name l a := by
  induction l with
  | nil =>
    refine ⟨fun ha => (nomatch ha), ?_⟩
    rintro ⟨before, later, hsplit, -⟩
    simp at hsplit
  | cons first rest ih =>
    rw [isLastOccurrence_cons, lastOccurrences, ← ih]
    by_cases hfirst : ∃ b ∈ rest, name b = name first
    · have hany : (rest.any fun b => name b = name first) = true := by simpa using hfirst
      rw [if_pos hany]
      refine ⟨Or.inr, fun ha => ha.resolve_left ?_⟩
      rintro ⟨-, hnone⟩
      obtain ⟨b, hb, he⟩ := hfirst
      exact hnone b hb he
    · have hany : ¬(rest.any fun b => name b = name first) = true := by simpa using hfirst
      have hnone : ∀ b ∈ rest, name b ≠ name first := fun b hb he => hfirst ⟨b, hb, he⟩
      rw [if_neg hany, List.mem_cons, and_iff_left hnone, eq_comm]

end

namespace Gateway

variable {g : Gateway}

/-! ## What readiness compares -/

/-- A gateway shows an instance that it finds under its identity. -/
theorem showsInstance_iff {i : ServiceInstance} : g.showsInstance i = true ↔ g.catalog.get? i.id = some i := beq_iff_eq

/-- A gateway shows a registration when its tenant has these hosts, and no others, from the ownership feed. -/
theorem showsRegistration_iff {r : Registration} :
    g.showsRegistration r = true ↔ g.resolver.hosts? .feed r.tenant = some r.normalized.domains := by
  unfold showsRegistration Resolver.hosts?
  cases g.resolver.registration? .feed r.tenant <;> simp

/-- A gateway shows a resource whose fragment is a layer of its tenant, unless it maps to none. -/
theorem showsResource_iff {r : SeedResource} :
    g.showsResource r = true ↔ ∀ f, g.adapter.sync.fragment? r.kind r.resource = some f →
      ∃ c, g.composer.configuration? f.tenant = some c ∧ c.layer? f.id = some f.properties := by
  unfold showsResource
  cases g.adapter.sync.fragment? r.kind r.resource with
  | none => simp
  | some f =>
    dsimp only
    rw [showsFragment]
    cases hc : g.composer.configuration? f.tenant with
    | none => simp [hc]
    | some c => simp [hc]

/-- The hosts that the bridge has registered for a tenant are those of its origin. -/
theorem bridgedDomains_eq (g : Gateway) (t : TenantId) :
    g.bridgedDomains t = (g.resolver.hosts? .configuration t).getD .empty := by
  unfold bridgedDomains Resolver.hosts?
  cases g.resolver.registration? .configuration t <;> rfl

/-- The bridge has caught up when every configuration has its hosts registered. -/
theorem bridgeCaughtUp_iff :
    g.bridgeCaughtUp = true ↔ ∀ t c, g.composer.configuration? t = some c →
      (g.resolver.hosts? .configuration t).getD .empty = (Registration.ofHosts t (c.list PropertyKey.routingDomains)).domains := by
  rw [bridgeCaughtUp, List.all_eq_true]
  refine forall_congr' fun t => ?_
  have hmem : t ∈ g.composer.tenants ↔ ∃ c, g.composer.configuration? t = some c := g.composer.feed.entries.mem_keys
  rw [hmem, beq_iff_eq, bridgedDomains_eq]
  constructor
  · intro h c hc
    rw [h ⟨c, hc⟩, configuredDomains, hc]
  · rintro h ⟨c, hc⟩
    rw [h c hc, configuredDomains, hc]

/-- A seed is loaded when the last occurrences of its items are stored, and what is registered for every tenant by its configuration
is what the configuration lists. -/
theorem seedApplied_iff {seed : Seed} :
    g.seedApplied seed = true ↔
      (∀ i, IsLastOccurrence (·.id) seed.instances i → g.catalog.get? i.id = some i) ∧
      (∀ r, IsLastOccurrence (·.tenant) seed.registrations r →
        g.resolver.hosts? .feed r.tenant = some r.normalized.domains) ∧
      (∀ r, IsLastOccurrence (·.resource.uid) seed.resources r → ∀ f, g.adapter.sync.fragment? r.kind r.resource = some f →
        ∃ c, g.composer.configuration? f.tenant = some c ∧ c.layer? f.id = some f.properties) ∧
      ∀ t c, g.composer.configuration? t = some c →
        (g.resolver.hosts? .configuration t).getD .empty = (Registration.ofHosts t (c.list PropertyKey.routingDomains)).domains := by
  simp only [seedApplied, Bool.and_eq_true, List.all_eq_true, mem_lastOccurrences, showsInstance_iff, showsRegistration_iff,
    showsResource_iff, bridgeCaughtUp_iff, and_assoc]

/-! ## What is stored is found -/

/-- The indices of the resolver and of the catalog cover what these store. -/
structure Indexed (g : Gateway) : Prop where
  resolver : g.resolver.Sound
  catalog : ∃ live, g.catalog.Lists live

theorem indexed_start (settings : Settings) : (start settings).Indexed := ⟨Resolver.sound_new, [], Catalog.lists_new⟩

/-- The same claims and the same catalog are found in the same way. -/
theorem Indexed.congr (h : g.Indexed) {g' : Gateway} (hclaims : g'.resolver.claims = g.resolver.claims)
    (hcatalog : g'.catalog = g.catalog) : g'.Indexed :=
  ⟨h.resolver.congr hclaims, hcatalog ▸ h.catalog⟩

/-- The registrations of an origin keep the indices sound. -/
theorem Indexed.applyDomain (h : g.Indexed) (origin : Origin) : (g.applyDomain origin).Indexed := by
  unfold Gateway.applyDomain
  split
  · exact h
  · exact ⟨h.resolver.apply origin _, h.catalog⟩

theorem Indexed.applyDiscovery (h : g.Indexed) : g.applyDiscovery.Indexed := by
  unfold Gateway.applyDiscovery
  split
  · exact h
  · obtain ⟨live, hlive⟩ := h.catalog
    exact ⟨h.resolver, _, hlive.apply _⟩

theorem route_fst (g : Gateway) (host : String) : (g.route host).1 = g.state.router.select host := rfl

/-- Routing a request leaves the claims and the catalog alone. -/
theorem route_aside (g : Gateway) (host : String) :
    (g.route host).2.resolver.claims = g.resolver.claims ∧ (g.route host).2.catalog = g.catalog := by
  have hrouter : (g.route host).2.state.router = (g.state.router.route host).2 := rfl
  rw [resolver, catalog, hrouter]
  exact g.state.router.route_aside host

/-- Answering a request leaves the claims and the catalog alone. -/
theorem serve_aside (g : Gateway) (request : Http.Request) :
    (g.serve request).2.resolver.claims = g.resolver.claims ∧ (g.serve request).2.catalog = g.catalog := by
  have hanswer : (g.serve request).2.state = (g.state.answer request.target).2 := rfl
  rw [resolver, catalog, hanswer, RoutingState.answer]
  split
  · exact ⟨rfl, rfl⟩
  · exact ⟨rfl, rfl⟩
  · split
    · exact ⟨rfl, rfl⟩
    · exact g.state.router.route_aside _
  · exact ⟨rfl, rfl⟩

/-- Every step keeps the indices sound. -/
theorem Indexed.after (h : g.Indexed) (step : GatewayStep) : (g.after step).Indexed := by
  cases step with
  | resource kind event =>
    rw [Gateway.after, sendResource]
    split <;> exact h.congr rfl rfl
  | domain event => exact h.congr rfl rfl
  | discovery event => exact h.congr rfl rfl
  | replay seed => exact h.congr rfl rfl
  | configure op => exact h.congr rfl rfl
  | turn worker order heeds =>
    cases worker with
    | watch kind =>
      rw [Gateway.after, advance, handleResource]
      split <;> exact h.congr rfl rfl
    | bridge => exact h.congr rfl rfl
    | registrations origin => exact h.applyDomain origin
    | discovery => exact h.applyDiscovery
  | route host =>
    obtain ⟨hclaims, hcatalog⟩ := g.route_aside host
    exact h.congr hclaims hcatalog
  | serve request =>
    obtain ⟨hclaims, hcatalog⟩ := g.serve_aside request
    exact h.congr hclaims hcatalog
  | markReady => exact h.congr rfl rfl
  | shutdown => exact h.congr rfl rfl

theorem Indexed.foldl_after (h : g.Indexed) (steps : List GatewayStep) : (steps.foldl Gateway.after g).Indexed := by
  induction steps generalizing g with
  | nil => exact h
  | cons step steps ih => exact ih (h.after step)

/-- The indices of every reachable gateway are sound. -/
theorem Reachable.indexed (h : g.Reachable) : g.Indexed := by
  obtain ⟨settings, steps, -, rfl⟩ := h
  exact (indexed_start settings).foldl_after steps

/-- A tenant claims the hosts that its registration in a loaded seed, or its configuration, lists in any spelling. -/
theorem claims_of_seedApplied {seed : Seed} (hseed : g.seedApplied seed = true) {t : TenantId} {host name : String}
    (hname : Host.normalize host = some name)
    (hlisted : (∃ r, IsLastOccurrence (·.tenant) seed.registrations r ∧ r.tenant = t ∧ host ∈ r.domains.keys) ∨
      ∃ c, g.composer.configuration? t = some c ∧ host ∈ c.list PropertyKey.routingDomains) :
    g.resolver.Claims t name := by
  obtain ⟨-, hregistrations, -, hbridged⟩ := seedApplied_iff.1 hseed
  rw [Resolver.claims_iff_hosts?]
  rcases hlisted with ⟨r, hlast, rfl, hhost⟩ | ⟨c, hc, hhost⟩
  · exact ⟨.feed, _, hregistrations r hlast, Registration.mem_ofHosts.2 ⟨host, hhost, hname⟩⟩
  · have hmem : name ∈ (Registration.ofHosts t (c.list PropertyKey.routingDomains)).domains.keys :=
      Registration.mem_ofHosts.2 ⟨host, hhost, hname⟩
    rw [← hbridged t c hc] at hmem
    exact ⟨.configuration, KeySet.mem_keys_getD.1 hmem⟩

/-- A host that belongs to a tenant with an instance is routed to one of its instances. -/
theorem Indexed.route_of_owner (h : g.Indexed) {host : String} {t : TenantId} (howner : g.resolver.owner host = .ok t)
    {i : ServiceInstance} (hi : g.catalog.get? i.id = some i) (ht : i.tenant = t) :
    ∃ j, (g.route host).1 = .ok j ∧ j.tenant = t ∧ g.catalog.get? j.id = some j := by
  obtain ⟨live, hlive⟩ := h.catalog
  rw [route_fst, Router.select_of_owner howner]
  cases hleast : Router.least? (g.catalog.ofTenant t.text) with
  | none =>
    have hmem := hlive.mem_ofTenant.2 ⟨ht, hi⟩
    rw [Router.least?_eq_none_iff.1 hleast] at hmem
    nomatch hmem
  | some j =>
    obtain ⟨htenant, hget⟩ := hlive.mem_ofTenant.1 (Router.isLeast_of_least? hleast).1
    exact ⟨j, congrArg (fun found => Option.elim found _ _) hleast, htenant, hget⟩

/-- Let a seed be loaded, as readiness tells, in any reachable state of a gateway. Take a host in any spelling that has a name, which
the last registration of a tenant in the seed lists, or the present configuration of the tenant. The host resolves to the tenant, or to
a collision in which the tenant takes part. If the last instance of the seed under some identity is one of the tenant, then a request
for the host is routed to an instance of the tenant, or refused for that collision. And the last resource of the seed under every uid,
if it contributes a fragment, has its layer with its tenant, with exactly the properties of the fragment. -/
theorem loaded_seed_is_found (hg : g.Reachable) (seed : Seed) (hseed : g.seedApplied seed = true) :
    (∀ (t : TenantId) (host name : String), Host.normalize host = some name →
      ((∃ r, IsLastOccurrence (·.tenant) seed.registrations r ∧ r.tenant = t ∧ host ∈ r.domains.keys) ∨
        ∃ c, g.composer.configuration? t = some c ∧ host ∈ c.list PropertyKey.routingDomains) →
      let resolved := (g.resolver.resolve host).1
      let routed := (g.route host).1
      (resolved = .ok t ∨ ∃ ts, resolved = .error (.collision name ts) ∧ t ∈ ts) ∧
      ((∃ i, IsLastOccurrence (·.id) seed.instances i ∧ i.tenant = t) →
        (resolved = .ok t ∧ ∃ i, routed = .ok i ∧ i.tenant = t ∧ g.catalog.get? i.id = some i) ∨
        ∃ ts, resolved = .error (.collision name ts) ∧ t ∈ ts ∧ routed = .error (.unresolved (.collision name ts)))) ∧
    ∀ r, IsLastOccurrence (·.resource.uid) seed.resources r → ∀ f, g.adapter.sync.fragment? r.kind r.resource = some f →
      f.id = r.resource.uid ∧ ∃ c, g.composer.configuration? f.tenant = some c ∧ c.layer? f.id = some f.properties := by
  have hindexed := hg.indexed
  obtain ⟨hinstances, -, hresources, -⟩ := seedApplied_iff.1 hseed
  refine ⟨fun t host name hname hlisted => ?_, fun r hlast f hf => ?_⟩
  · have hfound := (hindexed.resolver.owner_names_iff hname t).2 (claims_of_seedApplied hseed hname hlisted)
    rw [Resolver.resolve_fst]
    refine ⟨hfound, ?_⟩
    rintro ⟨i, hlast, htenant⟩
    rcases hfound with howner | ⟨ts, howner, hmem⟩
    · exact Or.inl ⟨howner, hindexed.route_of_owner howner (hinstances i hlast) htenant⟩
    · exact Or.inr ⟨ts, howner, hmem, (g.route_fst host).trans (Router.select_of_error howner)⟩
  · exact ⟨(LabelSelector.fragment?_eq_some hf).1, hresources r hlast f hf⟩

/-- A seed registers a tenant twice, gives an instance first to that tenant and then to another one, and has a resource of the other one
that lists the host last registered. Once the seed is loaded, requests for the host are refused for the collision, although both
tenants have an instance. -/
theorem loaded_seed_is_found_shared :
    let a : TenantId := ⟨"a", by decide⟩
    let b : TenantId := ⟨"b", by decide⟩
    let settings : Settings := ⟨⟨"127.0.0.1", 3001⟩, none, ⟨none, .text⟩, ⟨"tenant", "kind", "config"⟩, 1, none⟩
    let i (id : String) (t : TenantId) : ServiceInstance := ⟨id, t, ⟨"d", by decide⟩, "10.0.0.1", 80, false, .empty⟩
    let r : Resource :=
      ⟨"u", "r", .ofList [("kind", "config"), ("tenant", "a")], .ofList [(PropertyKey.routingDomains, "Shop.Example")]⟩
    let put (host : String) : Registration := ⟨b, .ofKeys [host]⟩
    let seed : Seed := ⟨[⟨.configMap, r⟩], [put "old.example", put "SHOP.example."], [i "i" b, i "j" b, i "i" a]⟩
    let workers : List Worker := [.watch .configMap, .bridge, .registrations .configuration, .registrations .feed,
      .registrations .feed, .discovery, .discovery, .discovery]
    let g := (GatewayStep.replay seed :: workers.map fun worker => .turn worker).foldl Gateway.after (.start settings)
    g.Reachable ∧ g.seedApplied seed = true ∧
      (∃ ts, (g.resolver.resolve "SHOP.example.").1 = .error (.collision "shop.example" ts) ∧ b ∈ ts ∧
        (g.route "SHOP.example.").1 = .error (.unresolved (.collision "shop.example" ts))) ∧
      ∃ c, g.composer.configuration? a = some c ∧ c.layer? "u" = some r.data := by
  intro a b settings i r put seed workers g
  have hreachable : g.Reachable :=
    ⟨settings, GatewayStep.replay seed :: workers.map fun worker => .turn worker, by decide, rfl⟩
  have hseed : g.seedApplied seed = true := by decide +kernel
  have hname : Host.normalize "SHOP.example." = some "shop.example" := by decide +kernel
  have hlisted : IsLastOccurrence (·.tenant) seed.registrations (put "SHOP.example.") :=
    ⟨[put "old.example"], [], rfl, fun _ hb => nomatch hb⟩
  have hinstance : IsLastOccurrence (·.id) seed.instances (i "j" b) := ⟨[i "i" b], [i "i" a], rfl, by decide⟩
  have hresource : IsLastOccurrence (·.resource.uid) seed.resources ⟨.configMap, r⟩ := ⟨[], [], rfl, fun _ hb => nomatch hb⟩
  have hnot : (g.resolver.resolve "SHOP.example.").1 ≠ .ok b := by decide +kernel
  have hfragment : g.adapter.sync.fragment? .configMap r = some ⟨"u", a, r.data⟩ := by decide +kernel
  clear_value g
  obtain ⟨hfound, hlayers⟩ := loaded_seed_is_found hreachable seed hseed
  obtain ⟨-, hrouted⟩ := hfound b "SHOP.example." "shop.example" hname (Or.inl ⟨_, hlisted, rfl, by decide⟩)
  refine ⟨hreachable, hseed, (hrouted ⟨_, hinstance, rfl⟩).resolve_left fun hok => hnot hok.1, ?_⟩
  exact (hlayers _ hresource _ hfragment).2

end Gateway

end TenantGateway
