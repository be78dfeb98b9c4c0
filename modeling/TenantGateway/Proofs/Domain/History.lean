import TenantGateway.Proofs.Domain.Resolver

/-!
# Registrations as a function of history

What an origin has registered for a tenant is decided by the last of its events that touches the tenant
(`Resolver.registration?_run_eq_some_iff`). All that a resolver shows depends on the registrations only, and therefore not on how the
events of the two origins were interleaved (`Resolver.run_separates_origins`).
-/

namespace TenantGateway

namespace DomainEvent

variable {t : TenantId}

/-- An event decides about the hosts of a tenant that it touches, whatever they were, and leaves those of the others alone. -/
theorem leaves_eq_ite (t : TenantId) (hosts : Option (KeySet String)) (e : DomainEvent) :
    e.leaves t hosts = if e.Touches t then e.leaves t none else hosts := by
  cases e with
  | put registration => by_cases ht : registration.tenant = t <;> simp [leaves, Touches, ht]
  | delete tenant => by_cases ht : tenant = t <;> simp [leaves, Touches, ht]
  | clear => simp [leaves, Touches]

/-- Events that do not touch a tenant leave its hosts alone. -/
theorem foldl_leaves_of_not_touches {events : List DomainEvent} (h : ∀ e ∈ events, ¬e.Touches t)
    (hosts : Option (KeySet String)) : events.foldl (leaves t) hosts = hosts := by
  induction events with
  | nil => rfl
  | cons e events ih =>
    rw [List.foldl_cons, leaves_eq_ite, if_neg (h e List.mem_cons_self)]
    exact ih fun x hx => h x (List.mem_cons_of_mem e hx)

/-- A history leaves hosts to a tenant when its last event that touches the tenant is a put: those that were put. -/
theorem hostsAfter_eq_some_iff {events : List DomainEvent} {hosts : KeySet String} :
    hostsAfter t events = some hosts ↔ ∃ before registration later, events = before ++ .put registration :: later ∧
      registration.tenant = t ∧ registration.normalized.domains = hosts ∧ ∀ e ∈ later, ¬e.Touches t := by
  have hsnoc : ∀ events e, hostsAfter t (events ++ [e]) = if e.Touches t then e.leaves t none else hostsAfter t events := by
    intro events e
    rw [hostsAfter_snoc]
    exact leaves_eq_ite t _ e
  rw [eq_some_iff_last (hostsAfter t) (Touches t) (leaves t none) rfl hsnoc]
  constructor
  · rintro ⟨before, e, later, rfl, ⟨htouches, hleaves⟩, hlater⟩
    cases e with
    | put registration =>
      have htenant : registration.tenant = t := htouches
      rw [leaves, if_pos htenant] at hleaves
      exact ⟨before, registration, later, rfl, htenant, Option.some.inj hleaves, hlater⟩
    | delete tenant =>
      rw [leaves, ite_self] at hleaves
      nomatch hleaves
    | clear => nomatch hleaves
  · rintro ⟨before, registration, later, rfl, rfl, rfl, hlater⟩
    exact ⟨before, _, later, rfl, ⟨rfl, if_pos rfl⟩, hlater⟩

end DomainEvent

namespace Resolver

variable {r r' : Resolver}

/-! ## One history -/

/-- From an empty resolver on, an origin has registered what the last of its events that touches the tenant put. -/
theorem registration?_run_eq_some_iff {events : List (Origin × DomainEvent)} {o : Origin} {t : TenantId}
    {registration : Registration} :
    (Resolver.new.run events).registration? o t = some registration ↔
      ∃ before put later, eventsOf o events = before ++ .put put :: later ∧
        put.tenant = t ∧ put.normalized = registration ∧ ∀ e ∈ later, ¬e.Touches t := by
  have hhosts : (Resolver.new.run events).hosts? o t = DomainEvent.hostsAfter t (eventsOf o events) :=
    sound_new.hosts?_run events o t
  rw [(sound_new.run events).registration?_eq, hhosts, Option.map_eq_some_iff]
  constructor
  · rintro ⟨hosts, hsome, rfl⟩
    obtain ⟨before, put, later, hevents, rfl, rfl, hlater⟩ := DomainEvent.hostsAfter_eq_some_iff.1 hsome
    exact ⟨before, put, later, hevents, rfl, rfl, hlater⟩
  · rintro ⟨before, put, later, hevents, rfl, rfl, hlater⟩
    exact ⟨_, DomainEvent.hostsAfter_eq_some_iff.2 ⟨before, put, later, hevents, rfl, rfl, hlater⟩, rfl⟩

/-! ## Two resolvers with the same registrations -/

/-- Who claims a host is a matter of the registrations. -/
theorem claims_congr (hsame : ∀ o t, r.registration? o t = r'.registration? o t) (t : TenantId) (name : String) :
    r.Claims t name ↔ r'.Claims t name := by
  unfold Claims
  simp only [hsame]

/-- The hosts of a tenant are a matter of the registrations. -/
theorem domains_congr (hsame : ∀ o t, r.registration? o t = r'.registration? o t) (t : TenantId) :
    r.domains t = r'.domains t := by
  unfold domains
  simp only [hsame]

/-- Resolvers with the same registrations hold as many of them. -/
theorem Sound.size_congr (h : r.Sound) (h' : r'.Sound) (hsame : ∀ o t, r.registration? o t = r'.registration? o t) :
    r.size = r'.size := by
  refine Entries.length_eq_of_isSome_get? h.claims.distinct h'.claims.distinct fun ⟨o, t⟩ => ?_
  have hkey := congrArg Option.isSome (hsame o t)
  rw [registration?, registration?, Option.isSome_map, Option.isSome_map] at hkey
  exact hkey

/-- Resolvers with the same registrations find the same, although their indices may list the claims on a host in different orders. -/
theorem Sound.owner_congr (h : r.Sound) (h' : r'.Sound) (hsame : ∀ o t, r.registration? o t = r'.registration? o t)
    (host : String) : r.owner host = r'.owner host := by
  have hclaimants : ∀ name, r.claimants name = r'.claimants name := fun name =>
    h.claimants_eq_iff.2 ⟨claimants_pairwise r' name, fun t => h'.mem_claimants.trans (claims_congr hsame t name).symm⟩
  unfold owner
  simp only [hclaimants]

/-- Let each origin send its own sequence of events, and take any two interleavings of both sequences, applied to an empty resolver:
they lead to the same registrations of either origin, the same domains, the same number of registrations and the same answers for every
host. What an origin has registered for a tenant is the last put of the tenant in its own sequence, in normalised spelling, unless a
later event of that sequence deletes the tenant or clears the origin; then there is none. -/
theorem run_separates_origins (sent : Origin → List DomainEvent) (events events' : List (Origin × DomainEvent))
    (h : ∀ o, eventsOf o events = sent o) (h' : ∀ o, eventsOf o events' = sent o) :
    let r := Resolver.new.run events
    let r' := Resolver.new.run events'
    (∀ o t, r.registration? o t = r'.registration? o t ∧
      ∀ registration, r.registration? o t = some registration ↔
        ∃ before put later, sent o = before ++ .put put :: later ∧
          put.tenant = t ∧ put.normalized = registration ∧ ∀ e ∈ later, ¬e.Touches t) ∧
    (∀ t, r.domains t = r'.domains t) ∧
    r.size = r'.size ∧
    ∀ host, (r.resolve host).1 = (r'.resolve host).1 := by
  intro r r'
  have hr : r.Sound := sound_new.run events
  have hr' : r'.Sound := sound_new.run events'
  have hregistration : ∀ o t registration, r.registration? o t = some registration ↔
      ∃ before put later, sent o = before ++ .put put :: later ∧
        put.tenant = t ∧ put.normalized = registration ∧ ∀ e ∈ later, ¬e.Touches t := by
    intro o t registration
    rw [← h o]
    exact registration?_run_eq_some_iff
  have hsame : ∀ o t, r.registration? o t = r'.registration? o t := by
    intro o t
    refine Option.ext fun registration => ?_
    rw [hregistration, ← h' o]
    exact registration?_run_eq_some_iff.symm
  refine ⟨fun o t => ⟨hsame o t, hregistration o t⟩, domains_congr hsame, hr.size_congr hr' hsame, fun host => ?_⟩
  rw [resolve_fst, resolve_fst]
  exact hr.owner_congr hr' hsame host

/-- The feed registers a host and the configuration of another tenant claims it too, then one origin is cleared and the other deletes:
in whatever order this is interleaved, the registration of the first tenant by its configuration is left. -/
theorem run_separates_origins_cleared :
    let a : TenantId := ⟨"a", by decide⟩
    let b : TenantId := ⟨"b", by decide⟩
    let put (t : TenantId) (host : String) : DomainEvent := .put (.ofHosts t [host])
    let sent : Origin → List DomainEvent
      | .feed => [put a "shop.example", put b "b.example", .clear]
      | .configuration => [put a "Shop.Example", put b "shop.example", .delete b]
    let events := (sent .feed).map (Origin.feed, ·) ++ (sent .configuration).map (Origin.configuration, ·)
    let mixed : List (Origin × DomainEvent) := [(.configuration, put a "Shop.Example"), (.feed, put a "shop.example"),
      (.configuration, put b "shop.example"), (.feed, put b "b.example"), (.configuration, .delete b), (.feed, .clear)]
    (∀ o, eventsOf o events = sent o) ∧ (∀ o, eventsOf o mixed = sent o) ∧
      (Resolver.new.run events).size = 1 ∧
      (Resolver.new.run events).size = (Resolver.new.run mixed).size ∧
      ((Resolver.new.run events).resolve "shop.example").1 = ((Resolver.new.run mixed).resolve "shop.example").1 ∧
      (Resolver.new.run events).registration? .configuration a = some (.ofHosts a ["shop.example"]) := by
  intro a b put sent events mixed
  have h : ∀ o, eventsOf o events = sent o := by
    intro o
    cases o <;> rfl
  have h' : ∀ o, eventsOf o mixed = sent o := by
    intro o
    cases o <;> rfl
  obtain ⟨hregistrations, -, hsize, hresolve⟩ := run_separates_origins sent events mixed h h'
  refine ⟨h, h', by decide +kernel, hsize, hresolve "shop.example", ((hregistrations .configuration a).2 _).2 ?_⟩
  exact ⟨[], .ofHosts a ["Shop.Example"], [put b "shop.example", .delete b], rfl, rfl, by decide +kernel, by decide⟩

end Resolver

end TenantGateway
