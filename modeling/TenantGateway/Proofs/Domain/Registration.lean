import TenantGateway.Proofs.Domain.Resolver
import TenantGateway.Proofs.Host

/-!
# Finding what was registered

A registration of hosts normalises every host twice, when it is built and when it is applied, and a look-up normalises the host once.
A listed host is therefore found when its normalised form is bare, but may be missed when it is not
(`Resolver.put_is_found_iff`).
-/

namespace TenantGateway

namespace Registration

variable {t : TenantId} {hosts : List String} {name : String}

/-- A registration holds the normalised forms of the hosts that it is built from. -/
theorem mem_ofHosts : name ∈ (ofHosts t hosts).domains.keys ↔ ∃ host ∈ hosts, Host.normalize host = some name := by
  rw [ofHosts, KeySet.mem_ofKeys, List.mem_filterMap]

/-- Normalising a registration of hosts normalises every host twice. -/
theorem mem_normalized_ofHosts :
    name ∈ (ofHosts t hosts).normalized.domains.keys ↔
      ∃ host ∈ hosts, (Host.normalize host).bind Host.normalize = some name := by
  rw [normalized, mem_ofHosts]
  constructor
  · rintro ⟨once, honce, hname⟩
    obtain ⟨host, hmem, hhost⟩ := mem_ofHosts.1 honce
    exact ⟨host, hmem, Option.bind_eq_some_iff.2 ⟨once, hhost, hname⟩⟩
  · rintro ⟨host, hmem, hname⟩
    obtain ⟨once, hhost, hname⟩ := Option.bind_eq_some_iff.1 hname
    exact ⟨once, mem_ofHosts.2 ⟨host, hmem, hhost⟩, hname⟩

/-- A host is registered under its normalised form when that is bare. -/
theorem mem_normalized_ofHosts_of_bare {host : String} (hmem : host ∈ hosts) (hname : Host.normalize host = some name)
    (hbare : Host.Bare name) : name ∈ (ofHosts t hosts).normalized.domains.keys := by
  have hagain : Host.normalize name = some name := (Host.normalize_eq_self_iff hname).2 hbare
  exact mem_normalized_ofHosts.2 ⟨host, hmem, Option.bind_eq_some_iff.2 ⟨name, hname, hagain⟩⟩

end Registration

namespace Resolver

variable {r : Resolver}

/-- A registration takes the place of the one from the same origin, and leaves the one from the other origin. -/
theorem Sound.registration?_put (h : r.Sound) (o : Origin) (registration : Registration) (o' : Origin) :
    (r.apply o (.put registration)).registration? o' registration.tenant =
      if o = o' then some registration.normalized else r.registration? o' registration.tenant := by
  rw [(h.apply o _).registration?_eq, h.hosts?_apply]
  by_cases ho : o = o'
  · rw [if_pos ho, if_pos ho, DomainEvent.leaves, if_pos rfl]
    rfl
  · rw [if_neg ho, if_neg ho, ← h.registration?_eq]

/-- What a tenant claims once it has registered with an origin: the hosts that it registered, and those that it still has from
elsewhere. -/
theorem Sound.claims_put_iff (h : r.Sound) (o : Origin) (registration : Registration) (name : String) :
    (r.apply o (.put registration)).Claims registration.tenant name ↔
      name ∈ registration.normalized.domains.keys ∨
        ∃ o' other, o' ≠ o ∧ r.registration? o' registration.tenant = some other ∧ name ∈ other.domains.keys := by
  unfold Claims
  simp only [h.registration?_put]
  constructor
  · rintro ⟨o', other, hother, hmem⟩
    by_cases ho : o = o'
    · rw [if_pos ho] at hother
      obtain rfl := Option.some.inj hother
      exact Or.inl hmem
    · rw [if_neg ho] at hother
      exact Or.inr ⟨o', other, Ne.symm ho, hother, hmem⟩
  · rintro (hmem | ⟨o', other, ho, hother, hmem⟩)
    · exact ⟨o, registration.normalized, if_pos rfl, hmem⟩
    · exact ⟨o', other, (if_neg ho.symm).trans hother, hmem⟩

/-- After any history of both origins, let a tenant register hosts with an origin, and look up one of them that has a normalised
form. The answer is the tenant, or a collision in which it takes part, exactly when some listed host becomes this form by
normalising it twice, or the tenant has the form from the other origin; so it is whenever the form is bare. -/
theorem put_is_found_iff (events : List (Origin × DomainEvent)) (o : Origin) (t : TenantId) (hosts : List String)
    {host name : String} (hmem : host ∈ hosts) (hname : Host.normalize host = some name) :
    let r := Resolver.new.run events
    let answer := ((r.apply o (.put (.ofHosts t hosts))).resolve host).1
    let found := answer = .ok t ∨ ∃ ts, answer = .error (.collision name ts) ∧ t ∈ ts
    (found ↔ (∃ listed ∈ hosts, (Host.normalize listed).bind Host.normalize = some name) ∨
      ∃ o' other, o' ≠ o ∧ r.registration? o' t = some other ∧ name ∈ other.domains.keys) ∧
    (Host.Bare name → found) := by
  intro r answer found
  have hsound : r.Sound := sound_new.run events
  have hfound : found ↔ (r.apply o (.put (.ofHosts t hosts))).Claims t name := by
    rw [← (hsound.apply o _).owner_names_iff hname t, ← resolve_fst]
  have hclaims := hsound.claims_put_iff o (.ofHosts t hosts) name
  refine ⟨?_, fun hbare => ?_⟩
  · rw [hfound, ← Registration.mem_normalized_ofHosts (t := t)]
    exact hclaims
  · exact hfound.2 (hclaims.2 (Or.inl (Registration.mem_normalized_ofHosts_of_bare hmem hname hbare)))

/-- A host with a port in capital letters is found, although its tenant shares it with another one. -/
theorem put_is_found_iff_shared :
    let a : TenantId := ⟨"a", by decide⟩
    let b : TenantId := ⟨"b", by decide⟩
    let hosts := ["Shop.Example:80"]
    let r := Resolver.new.run [(.feed, .put (.ofHosts b ["shop.example."]))]
    let answer := ((r.apply .configuration (.put (.ofHosts a hosts))).resolve "Shop.Example:80").1
    answer = .error (.collision "shop.example" [a, b]) ∧
      (answer = .ok a ∨ ∃ ts, answer = .error (.collision "shop.example" ts) ∧ a ∈ ts) := by
  intro a b hosts r answer
  have hname : Host.normalize "Shop.Example:80" = some "shop.example" := by decide
  have htwice : (Host.normalize "Shop.Example:80").bind Host.normalize = some "shop.example" := by decide
  have hfound := put_is_found_iff [(.feed, .put (.ofHosts b ["shop.example."]))] .configuration a hosts
    (List.mem_singleton.2 rfl) hname
  exact ⟨by decide +kernel, hfound.1.2 (Or.inl ⟨_, List.mem_singleton.2 rfl, htwice⟩)⟩

/-- A dot after its port keeps a listed host from being found: the port is dropped when the registration is applied, and stays when
the host is looked up. Another tenant that has the host with its port is found in its place. -/
theorem put_is_found_iff_port_before_dot :
    let a : TenantId := ⟨"a", by decide⟩
    let b : TenantId := ⟨"b", by decide⟩
    let host := "shop.example:80."
    let answer (r : Resolver) := ((r.apply .configuration (.put (.ofHosts a [host]))).resolve host).1
    Host.normalize host = some "shop.example:80" ∧
      answer .new = .error .noMatch ∧
      answer (Resolver.new.apply .configuration (.put (.ofHosts b ["[[shop.example:80]"]))) = .ok b := by
  decide

end Resolver

end TenantGateway
