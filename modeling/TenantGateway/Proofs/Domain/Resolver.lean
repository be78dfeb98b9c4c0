import TenantGateway.Domain.History
import TenantGateway.Proofs.Dictionary
import TenantGateway.Proofs.Store.Run

/-!
# What registrations mean for hosts

The claims of a resolver are a store with one index (`Resolver.Sound`), so that an event does to the hosts of a tenant what a
history says it does (`Sound.hosts?_apply`), the events of each origin apart from those of the other (`Sound.hosts?_run`), and a host
resolves by the tenants that claim it (`Sound.owner_iff`).
-/

namespace TenantGateway

/-- The operation on the claims that an event stands for. -/
def DomainEvent.storeOp (origin : Origin) : DomainEvent → StoreOp (Origin × TenantId) String Claim
  | .put registration => .add ⟨origin, registration.normalized⟩
  | .delete tenant => .remove (origin, tenant)
  | .clear => .retain fun claim => claim.origin ≠ origin

theorem eventsOf_cons (o : Origin) (e : Origin × DomainEvent) (events : List (Origin × DomainEvent)) :
    eventsOf o (e :: events) = if e.1 = o then e.2 :: eventsOf o events else eventsOf o events := by
  by_cases ho : e.1 = o <;> simp [eventsOf, ho]

/-- A history of one origin has no events of the other. -/
theorem eventsOf_map (o origin : Origin) (events : List DomainEvent) :
    eventsOf o (events.map fun e => (origin, e)) = if origin = o then events else [] := by
  by_cases ho : origin = o <;> simp [eventsOf, List.filter_map, Function.comp_def, ho]

namespace Resolver

/-- The claims are stored under their keys and indexed by host. -/
structure Sound (r : Resolver) : Prop where
  claims : r.claims.Sound
  identity : r.claims.identity = fun claim => some claim.key
  index : r.claims.indices.map (·.keysOf) = [hostsOf]
  key : ∀ e ∈ r.claims.items, e.2.key = e.1

/-- The hosts that a tenant has registered with an origin. -/
def hosts? (r : Resolver) (origin : Origin) (tenant : TenantId) : Option (KeySet String) :=
  (r.registration? origin tenant).map (·.domains)

variable {r : Resolver}

/-- The plain store beside the claims has one index, over their hosts. -/
theorem plain_claims (h : r.Sound) : r.claims.plain = ⟨fun claim => some claim.key, r.claims.items, [hostsOf]⟩ := by
  rw [Store.plain, h.identity, h.index]

theorem sound_new : Resolver.new.Sound := by
  obtain ⟨-, hr, hs⟩ := Store.after_refines (fun claim : Claim => some claim.key) [.createIndex hostsOf]
  exact ⟨hs, rfl, hr.keys, fun e he => nomatch he⟩

/-- A registration is stored for its own tenant. -/
theorem Sound.registration?_eq (h : r.Sound) (origin : Origin) (tenant : TenantId) :
    r.registration? origin tenant = (r.hosts? origin tenant).map fun hosts => ⟨tenant, hosts⟩ := by
  rw [hosts?, registration?]
  cases hget : r.claims.get? (origin, tenant) with
  | none => rfl
  | some claim =>
    have hkey : claim.key = (origin, tenant) := h.key _ (Entries.mem_of_get? hget)
    have htenant : claim.registration.tenant = tenant := congrArg Prod.snd hkey
    simp [← htenant]

/-- Looking hosts up changes no claim. -/
theorem claims_resolve (r : Resolver) (host : String) : (r.resolve host).2.claims = r.claims := by
  unfold resolve
  split <;> rfl

/-- Only the claims matter. -/
theorem Sound.congr {r' : Resolver} (h : r.Sound) (hclaims : r'.claims = r.claims) : r'.Sound :=
  ⟨hclaims ▸ h.claims, hclaims ▸ h.identity, hclaims ▸ h.index, hclaims ▸ h.key⟩

/-- Resolving a host keeps the resolver sound. -/
theorem Sound.resolve (h : r.Sound) (host : String) : (r.resolve host).2.Sound :=
  h.congr (claims_resolve r host)

/-- Resolving a host answers its owner. -/
theorem resolve_fst (r : Resolver) (host : String) : (r.resolve host).1 = r.owner host := by
  unfold resolve
  cases r.owner host with
  | ok t => rfl
  | error e => cases e <;> rfl

/-- The hosts registered are in the claims. -/
theorem hosts?_congr {r' : Resolver} (hclaims : r'.claims = r.claims) (origin : Origin) (tenant : TenantId) :
    r'.hosts? origin tenant = r.hosts? origin tenant := by
  rw [hosts?, registration?, hclaims]
  rfl

/-- Resolving a host leaves the registrations alone. -/
theorem hosts?_resolve (r : Resolver) (host : String) (origin : Origin) (tenant : TenantId) :
    (r.resolve host).2.hosts? origin tenant = r.hosts? origin tenant :=
  hosts?_congr (claims_resolve r host) origin tenant

/-! ## Applying events -/

/-- An event does to the claims what the operation that it stands for does. -/
theorem claims_apply (r : Resolver) (origin : Origin) (e : DomainEvent) :
    (r.apply origin e).claims = (r.claims.perform (e.storeOp origin)).2 := by
  cases e with
  | put registration =>
    cases hadd : r.claims.add ⟨origin, registration.normalized⟩ <;>
      simp only [Resolver.apply, claimsAfter, DomainEvent.storeOp, Store.perform, hadd]
  | delete tenant => rfl
  | clear => rfl

/-- The claims after an event, as a list. -/
theorem Sound.items_apply (h : r.Sound) (origin : Origin) (e : DomainEvent) :
    (r.apply origin e).claims.items =
      match e with
      | .put registration =>
        Entries.file r.claims.items (origin, registration.tenant) ⟨origin, registration.normalized⟩
      | .delete tenant => Entries.erase r.claims.items (origin, tenant)
      | .clear => r.claims.items.filter fun e => e.2.origin ≠ origin := by
  have hplain := h.claims.plain_perform (e.storeOp origin)
  rw [← claims_apply, plain_claims h] at hplain
  have hitems := congrArg PlainStore.items hplain
  cases e <;> exact hitems

/-- An event keeps the resolver sound. -/
theorem Sound.apply (h : r.Sound) (origin : Origin) (e : DomainEvent) : (r.apply origin e).Sound := by
  have hplain := h.claims.plain_perform (e.storeOp origin)
  rw [← claims_apply, plain_claims h] at hplain
  refine ⟨claims_apply r origin e ▸ h.claims.perform _, ?_, ?_, ?_⟩
  · exact (congrArg PlainStore.identity hplain).trans (PlainStore.identity_perform _ _)
  · refine (congrArg PlainStore.keyFunctions hplain).trans ?_
    cases e <;> rfl
  · rw [h.items_apply]
    intro c hc
    cases e with
    | put registration =>
      rcases List.mem_append.1 hc with hc | hc
      · exact h.key c (Entries.mem_erase.1 hc).1
      · rw [List.mem_singleton.1 hc]
        rfl
    | delete tenant => exact h.key c (Entries.mem_erase.1 hc).1
    | clear => exact h.key c (List.mem_filter.1 hc).1

/-- An event does to the hosts of its origin what a history says, and leaves those of the other origin alone. -/
theorem Sound.hosts?_apply (h : r.Sound) (origin : Origin) (e : DomainEvent) (o : Origin) (t : TenantId) :
    (r.apply origin e).hosts? o t = if origin = o then e.leaves t (r.hosts? o t) else r.hosts? o t := by
  unfold hosts? registration? Store.get?
  rw [h.items_apply]
  cases e with
  | put registration =>
    dsimp only [DomainEvent.leaves]
    rw [Entries.get?_file]
    by_cases ho : origin = o
    · by_cases ht : registration.tenant = t <;> simp [ho, ht]
    · simp [ho]
  | delete tenant =>
    dsimp only [DomainEvent.leaves]
    rw [Entries.get?_erase]
    by_cases ho : origin = o
    · by_cases ht : tenant = t <;> simp [ho, ht]
    · simp [ho]
  | clear =>
    dsimp only [DomainEvent.leaves]
    rw [Entries.get?_filter h.claims.distinct]
    cases hget : Entries.get? r.claims.items (o, t) with
    | none => simp
    | some claim =>
      have hkey := h.key _ (Entries.mem_of_get? hget)
      have horigin : claim.origin = o := congrArg Prod.fst hkey
      by_cases ho : origin = o
      · simp [Option.filter_some, horigin, ho]
      · simp [Option.filter_some, horigin, ho, Ne.symm ho]

/-- After any history of both origins the claims are sound. -/
theorem Sound.run (h : r.Sound) (events : List (Origin × DomainEvent)) : (r.run events).Sound := by
  induction events generalizing r with
  | nil => exact h
  | cons e events ih => exact ih (h.apply e.1 e.2)

/-- The events of an origin do to its hosts what they say, whatever the other origin sends between them. -/
theorem Sound.hosts?_run (h : r.Sound) (events : List (Origin × DomainEvent)) (o : Origin) (t : TenantId) :
    (r.run events).hosts? o t = (eventsOf o events).foldl (DomainEvent.leaves t) (r.hosts? o t) := by
  induction events generalizing r with
  | nil => rfl
  | cons e events ih =>
    refine (ih (h.apply e.1 e.2)).trans ?_
    rw [h.hosts?_apply, eventsOf_cons]
    by_cases ho : e.1 = o
    · rw [if_pos ho, if_pos ho]
      rfl
    · rw [if_neg ho, if_neg ho]

/-- Events of one origin are a history of both. -/
theorem applyAll_eq_run (r : Resolver) (origin : Origin) (events : List DomainEvent) :
    r.applyAll origin events = r.run (events.map fun e => (origin, e)) := by
  rw [Resolver.run, List.foldl_map]
  rfl

theorem Sound.applyAll (h : r.Sound) (origin : Origin) (events : List DomainEvent) : (r.applyAll origin events).Sound := by
  rw [applyAll_eq_run]
  exact h.run _

/-- Events in order do to the hosts of their origin what a history says. -/
theorem Sound.hosts?_applyAll (h : r.Sound) (origin : Origin) (events : List DomainEvent) (o : Origin) (t : TenantId) :
    (r.applyAll origin events).hosts? o t =
      if origin = o then events.foldl (DomainEvent.leaves t) (r.hosts? o t) else r.hosts? o t := by
  rw [applyAll_eq_run, h.hosts?_run, eventsOf_map]
  split <;> rfl

/-- Events do the same to the hosts of their origin where these are the same. -/
theorem Sound.hosts?_applyAll_congr {r' : Resolver} (h : r.Sound) (h' : r'.Sound) {origin : Origin}
    (hsame : ∀ t, r'.hosts? origin t = r.hosts? origin t) (events : List DomainEvent) (t : TenantId) :
    (r'.applyAll origin events).hosts? origin t = (r.applyAll origin events).hosts? origin t := by
  rw [h'.hosts?_applyAll, h.hosts?_applyAll, hsame]

/-! ## Resolving hosts -/

/-- A tenant claims the hosts that it has registered with either origin. -/
theorem claims_iff_hosts? (r : Resolver) (t : TenantId) (host : String) :
    r.Claims t host ↔ ∃ origin hosts, r.hosts? origin t = some hosts ∧ host ∈ hosts.keys := by
  refine exists_congr fun origin => ?_
  constructor
  · rintro ⟨registration, hr, hh⟩
    exact ⟨registration.domains, congrArg (Option.map _) hr, hh⟩
  · rintro ⟨hosts, hr, hh⟩
    obtain ⟨registration, hreg, rfl⟩ := Option.map_eq_some_iff.1 hr
    exact ⟨registration, hreg, hh⟩

/-- The claimants of a host are the tenants that claim it. -/
theorem Sound.mem_claimants (h : r.Sound) {t : TenantId} {host : String} : t ∈ r.claimants host ↔ r.Claims t host := by
  have hlookup := h.claims.lookup_perm (Store.refines_plain r.claims) 0 host
  rw [plain_claims h] at hlookup
  rw [claimants, KeySet.mem_ofKeys, List.mem_map]
  constructor
  · rintro ⟨claim, hclaim, rfl⟩
    obtain ⟨hitem, hhost⟩ := List.mem_filter.1 (hlookup.mem_iff.1 hclaim)
    obtain ⟨e, he, rfl⟩ := List.mem_map.1 hitem
    refine ⟨e.2.origin, e.2.registration, ?_, of_decide_eq_true hhost⟩
    have hget : r.claims.get? e.2.key = some e.2 := (Entries.get?_eq_some_iff h.claims.distinct).2 (h.key e he ▸ he)
    exact congrArg (Option.map _) hget
  · rintro ⟨origin, registration, hr, hhost⟩
    obtain ⟨claim, hget, rfl⟩ := Option.map_eq_some_iff.1 hr
    have hmem := Entries.mem_of_get? hget
    refine ⟨claim, hlookup.mem_iff.2 (List.mem_filter.2 ⟨List.mem_map.2 ⟨_, hmem, rfl⟩, decide_eq_true hhost⟩), ?_⟩
    exact congrArg Prod.snd (h.key _ hmem)

/-- The claimants of a host are given in ascending order. -/
theorem claimants_pairwise (r : Resolver) (host : String) : (r.claimants host).Pairwise fun a b => a.text < b.text :=
  (KeySet.ofKeys _).keys_pairwise

/-- The claimants of a host are the only ascending list of the tenants that claim it. -/
theorem Sound.claimants_eq_iff (h : r.Sound) {host : String} {ts : List TenantId} :
    r.claimants host = ts ↔ (ts.Pairwise fun a b => a.text < b.text) ∧ ∀ t, t ∈ ts ↔ r.Claims t host := by
  constructor
  · rintro rfl
    exact ⟨claimants_pairwise r host, fun t => h.mem_claimants⟩
  · rintro ⟨hpair, hmem⟩
    exact eq_of_ascending (claimants_pairwise r host) hpair fun t => h.mem_claimants.trans (hmem t).symm

/-- A host resolves by the number of its claimants: to nothing, to the only one, or to a collision. -/
theorem owner_of_normalize {host name : String} (hn : Host.normalize host = some name) :
    (∀ t, r.owner host = .ok t ↔ r.claimants name = [t]) ∧
    (r.owner host = .error .noMatch ↔ r.claimants name = []) ∧
    ∀ n ts, r.owner host = .error (.collision n ts) ↔ n = name ∧ 2 ≤ ts.length ∧ r.claimants name = ts := by
  unfold owner
  rw [hn]
  dsimp only
  rcases r.claimants name with _ | ⟨a, _ | ⟨b, rest⟩⟩
  · refine ⟨by simp, by simp, fun n ts => ⟨fun he => (nomatch he), ?_⟩⟩
    rintro ⟨-, hlen, rfl⟩
    exact absurd hlen (by decide)
  · refine ⟨by simp, by simp, fun n ts => ⟨fun he => (nomatch he), ?_⟩⟩
    rintro ⟨-, hlen, rfl⟩
    exact absurd hlen (by simp)
  · refine ⟨by simp, by simp, fun n ts => ⟨fun he => ?_, ?_⟩⟩
    · cases he
      exact ⟨rfl, by simp, rfl⟩
    · rintro ⟨rfl, -, rfl⟩
      rfl

/-- When the name of a host resolves to what: to the only tenant that claims it, to a collision when several do, else to
nothing. -/
theorem Sound.owner_iff_of_normalize (h : r.Sound) {host name : String} (hn : Host.normalize host = some name) :
    (∀ t, r.owner host = .ok t ↔ ∀ t', r.Claims t' name ↔ t' = t) ∧
    (r.owner host = .error .noMatch ↔ ∀ t, ¬r.Claims t name) ∧
    ∀ n ts, r.owner host = .error (.collision n ts) ↔
      n = name ∧ 2 ≤ ts.length ∧ (ts.Pairwise fun a b => a.text < b.text) ∧ ∀ t, t ∈ ts ↔ r.Claims t name := by
  obtain ⟨hok, hnone, hcollision⟩ := owner_of_normalize (r := r) hn
  refine ⟨fun t => ?_, ?_, fun n ts => ?_⟩
  · rw [hok, h.claimants_eq_iff]
    simp only [List.pairwise_singleton, List.mem_singleton, true_and]
    exact forall_congr' fun t' => iff_comm
  · rw [hnone, h.claimants_eq_iff]
    simp
  · rw [hcollision, h.claimants_eq_iff]

/-- A host resolves to a tenant, alone or among those of a collision, exactly when the tenant claims the name of the host. -/
theorem Sound.owner_names_iff (h : r.Sound) {host name : String} (hn : Host.normalize host = some name) (t : TenantId) :
    (r.owner host = .ok t ∨ ∃ ts, r.owner host = .error (.collision name ts) ∧ t ∈ ts) ↔ r.Claims t name := by
  rw [← h.mem_claimants, owner, hn]
  dsimp only
  rcases r.claimants name with _ | ⟨a, _ | ⟨b, rest⟩⟩
  · simp
  · simp [eq_comm]
  · simp

/-- When a host resolves to what; a host without a name resolves to nothing. -/
theorem Sound.owner_iff (h : r.Sound) (host : String) :
    (∀ t, r.owner host = .ok t ↔ ∃ name, Host.normalize host = some name ∧ ∀ t', r.Claims t' name ↔ t' = t) ∧
    (r.owner host = .error .noMatch ↔ ∀ t name, Host.normalize host = some name → ¬r.Claims t name) ∧
    ∀ name ts, r.owner host = .error (.collision name ts) ↔
      Host.normalize host = some name ∧ 2 ≤ ts.length ∧ (ts.Pairwise fun a b => a.text < b.text) ∧
        ∀ t, t ∈ ts ↔ r.Claims t name := by
  cases hn : Host.normalize host with
  | none =>
    have howner : r.owner host = .error .noMatch := by
      rw [owner, hn]
    rw [howner]
    refine ⟨fun t => ?_, ?_, fun name ts => ?_⟩
    · exact ⟨fun he => (nomatch he), fun ⟨_, he, _⟩ => (nomatch he)⟩
    · exact ⟨fun _ t name he => (nomatch he), fun _ => rfl⟩
    · exact ⟨fun he => (nomatch he), fun ⟨he, _⟩ => (nomatch he)⟩
  | some name =>
    obtain ⟨hok, hnone, hcollision⟩ := h.owner_iff_of_normalize hn
    refine ⟨fun t => ?_, ?_, fun name' ts => ?_⟩
    · rw [hok t]
      exact ⟨fun hall => ⟨name, rfl, hall⟩, fun ⟨_, he, hall⟩ => Option.some.inj he ▸ hall⟩
    · rw [hnone]
      exact ⟨fun hall t _ he => Option.some.inj he ▸ hall t, fun hall t => hall t name rfl⟩
    · rw [hcollision name' ts]
      constructor
      · rintro ⟨rfl, hrest⟩
        exact ⟨rfl, hrest⟩
      · rintro ⟨he, hrest⟩
        obtain rfl := Option.some.inj he
        exact ⟨rfl, hrest⟩

end Resolver

end TenantGateway
