import TenantGateway.Proofs.ControlPlane
import TenantGateway.Proofs.Domain.History
import TenantGateway.Proofs.Gateway.Settling
import TenantGateway.Proofs.Gateway.Tracking

/-!
# When a replayed seed is loaded

A gateway that was sent a seed and nothing else, and has come to rest, shows the last resource under every uid and the last
registration of every tenant (`Tracks.shows_resource`, `Tracks.shows_registration`). What can keep the seed from being loaded is an
instance without an identity, or a host that is another one when it is normalised twice (`Gateway.replayed_seed_loads_iff`).
-/

namespace TenantGateway

/-- The events of a resource are the same when those of every kind are, if all its events are of one kind. -/
theorem filter_uid_congr {events events' : List (ResourceKind × ResourceEvent)}
    (h : ∀ kind, eventsOfKind kind events = eventsOfKind kind events') {uid : String} {kind : ResourceKind}
    (hkind : ∀ e ∈ events', e.2.uid = uid → e.1 = kind) :
    events.filter (fun e => e.2.uid = uid) = events'.filter fun e => e.2.uid = uid := by
  have hkind' : ∀ e ∈ events, e.2.uid = uid → e.1 = kind := by
    rintro ⟨k, e⟩ he huid
    have hmem : e ∈ eventsOfKind k events' := h k ▸ mem_eventsOfKind.2 he
    exact hkind _ (mem_eventsOfKind.1 hmem) huid
  have hof : ∀ {l : List (ResourceKind × ResourceEvent)}, (∀ e ∈ l, e.2.uid = uid → e.1 = kind) →
      l.filter (fun e => e.2.uid = uid) = ((eventsOfKind kind l).filter fun e => e.uid = uid).map fun e => (kind, e) := by
    intro l hl
    induction l with
    | nil => rfl
    | cons e l ih =>
      have hrest := ih fun e' he => hl e' (List.mem_cons_of_mem e he)
      have hfirst := hl e List.mem_cons_self
      rw [List.filter_cons, hrest]
      obtain ⟨k, e⟩ := e
      by_cases huid : e.uid = uid
      · obtain rfl : k = kind := hfirst huid
        simp [eventsOfKind, huid]
      · by_cases hk : k = kind <;> simp [eventsOfKind, huid, hk]
  rw [hof hkind', hof hkind, h kind]

namespace Gateway

variable {g : Gateway} {initial : Sync} {seed : Seed}

/-- At rest the last resource of a seed under its uid has its layer, if the uid is of one kind. -/
theorem Tracks.shows_resource (h : g.Tracks initial seed.ops) (hopen : initial.composer.feed.closed = false)
    (hqueues : g.queues = .empty) {r : SeedResource}
    (hkind : ∀ r' ∈ seed.resources, r'.resource.uid = r.resource.uid → r'.kind = r.kind)
    (hlast : IsLastOccurrence (·.resource.uid) seed.resources r) {f : Fragment}
    (hf : g.adapter.sync.fragment? r.kind r.resource = some f) :
    ∃ c, g.composer.configuration? f.tenant = some c ∧ c.layer? f.id = some f.properties := by
  obtain ⟨ops, hsync, haccount⟩ := h.handled
  obtain ⟨hresources, -, -⟩ := seed.filterMap_ops
  have hsame : ∀ kind, eventsOfKind kind (ops.map SyncOp.report) =
      eventsOfKind kind (seed.resources.map fun r => (r.kind, .added r.resource)) := by
    intro kind
    rw [← hresources, ← haccount kind, hqueues]
    cases kind <;> exact (List.append_nil _).symm
  have hkeeps : ∀ op ∈ ops, op.event.KeepsUid := by
    intro op hop
    have hmem : op.event ∈ eventsOfKind op.kind (seed.ops.filterMap ControlOp.resource?) := by
      rw [hresources, ← hsame]
      exact mem_eventsOfKind.2 (List.mem_map_of_mem hop)
    exact h.keeps _ (mem_eventsOfKind.1 hmem)
  obtain ⟨hselector, after, hlayers, huids⟩ := Sync.performAll_effects (Composer.hasLayers_of_open hopen) hkeeps
  rw [← hsync] at hselector hlayers
  obtain ⟨outcomes, -, hhistory⟩ := huids r.resource.uid
  obtain ⟨before, later, hsplit, hlater⟩ := hlast
  have hevents : SyncOp.eventsAbout r.resource.uid ops =
      ((before.map fun r => (r.kind, ResourceEvent.added r.resource)).filter fun e => e.2.uid = r.resource.uid) ++
        [(r.kind, .added r.resource)] := by
    have hlater' : (later.map fun r => (r.kind, ResourceEvent.added r.resource)).filter
        (fun e => e.2.uid = r.resource.uid) = [] := by
      refine List.filter_eq_nil_iff.2 fun e he => ?_
      obtain ⟨r', hr', rfl⟩ := List.mem_map.1 he
      exact fun huid => hlater r' hr' (of_decide_eq_true huid)
    have hmine : ∀ e ∈ seed.resources.map fun r => (r.kind, ResourceEvent.added r.resource),
        e.2.uid = r.resource.uid → e.1 = r.kind := by
      simpa [ResourceEvent.uid] using hkind
    rw [SyncOp.eventsAbout, filter_uid_congr hsame hmine, hsplit, List.map_append, List.map_cons, List.filter_append,
      List.filter_cons, hlater']
    simp [ResourceEvent.uid]
  rw [hevents] at hhistory
  obtain ⟨between, hafter⟩ := hhistory.last
  have hlayer : after f.tenant r.resource.uid = some f.properties := by
    rw [Sync.fragment?, hselector] at hf
    refine (congrFun hafter f.tenant).trans ?_
    simp [ResourceEvent.leavesLayer, hf, Fragment.layerOr]
  rw [(LabelSelector.fragment?_eq_some hf).1]
  exact Option.bind_eq_some_iff.1 ((hlayers.layer? f.tenant r.resource.uid).trans hlayer)

/-- At rest the last registration of a tenant in a seed is registered, in normalised spelling. -/
theorem Tracks.shows_registration (h : g.Tracks initial seed.ops) (hqueues : g.queues = .empty) {r : Registration}
    (hlast : IsLastOccurrence (·.tenant) seed.registrations r) :
    g.resolver.hosts? .feed r.tenant = some r.normalized.domains := by
  obtain ⟨applied, hhosts, happlied⟩ := h.owned
  obtain ⟨-, howned, -⟩ := seed.filterMap_ops
  obtain ⟨before, later, hsplit, hlater⟩ := hlast
  have hevents : applied = before.map .put ++ .put r :: later.map .put := by
    rw [hqueues, howned, hsplit, List.map_append, List.map_cons] at happlied
    exact (List.append_nil applied).symm.trans happlied
  rw [hhosts, DomainEvent.hostsAfter_eq_some_iff]
  refine ⟨_, r, _, hevents, rfl, rfl, fun e he => ?_⟩
  obtain ⟨r', hr', rfl⟩ := List.mem_map.1 he
  exact hlater r' hr'

/-- At rest the last instance of a seed under its identity is listed, unless the identity is blank. -/
theorem Tracks.shows_instance_iff (h : g.Tracks initial seed.ops) (hqueues : g.queues = .empty) {i : ServiceInstance}
    (hlast : IsLastOccurrence (·.id) seed.instances i) :
    g.catalog.get? i.id = some i ↔ Text.isBlank i.id = false := by
  obtain ⟨added, hlists, hadded⟩ := h.found
  obtain ⟨-, -, hfound⟩ := seed.filterMap_ops
  obtain ⟨before, later, hsplit, hlater⟩ := hlast
  have hevents : added = before.map .add ++ .add i :: later.map .add := by
    rw [hqueues, hfound, hsplit, List.map_append, List.map_cons] at hadded
    exact (List.append_nil added).symm.trans hadded
  have hidentity : i.identity? = some i.id ↔ Text.isBlank i.id = false := by
    unfold ServiceInstance.identity?
    cases Text.isBlank i.id <;> simp
  rw [hlists.get?_eq, ← hidentity]
  constructor
  · intro hget
    exact hlists.identity _ (Entries.mem_of_get? hget)
  · intro hid
    refine DiscoveryEvent.get?_live_eq_some_iff.2 ⟨_, _, hevents, hid, fun e he htouches => ?_⟩
    obtain ⟨j, hj, rfl⟩ := List.mem_map.1 he
    exact hlater j hj (ServiceInstance.identity?_eq_some htouches)

/-- At rest what is registered for a tenant by its configuration is what the configuration lists exactly when normalising the hosts
listed once and twice gives the same hosts. -/
theorem Tracks.caught_up_iff (h : g.Tracks initial seed.ops) (hrest : g.isAtRest = true) {t : TenantId} {c : Configuration}
    (hc : g.composer.configuration? t = some c) :
    (g.resolver.hosts? .configuration t).getD .empty = (Registration.ofHosts t (c.list PropertyKey.routingDomains)).domains ↔
      ∀ name, (∃ host ∈ c.list PropertyKey.routingDomains, Host.normalize host = some name) ↔
        ∃ host ∈ c.list PropertyKey.routingDomains, (Host.normalize host).bind Host.normalize = some name := by
  obtain ⟨hqueues, hidle⟩ := isAtRest_iff.1 hrest
  have hwanted : g.resolver.hosts? .configuration t = Registration.wanted t (some c) := by
    have hregistered := h.bridge.hosts?_of_isIdle hidle t
    rw [hqueues, hc] at hregistered
    exact hregistered
  rw [hwanted, KeySet.eq_iff]
  refine forall_congr' fun name => ?_
  have htwice : name ∈ ((Registration.wanted t (some c)).getD .empty).keys ↔
      ∃ host ∈ c.list PropertyKey.routingDomains, (Host.normalize host).bind Host.normalize = some name := by
    rw [KeySet.mem_keys_getD, Registration.mem_wanted]
    simp
  rw [htwice, Registration.mem_ofHosts]
  exact iff_comm

/-- A gateway that was started and has since been sent the items of a seed, and nothing else, tracks the seed. -/
theorem tracks_seed (settings : Settings) {steps : List GatewayStep} (hsteps : steps.flatMap GatewayStep.inputs = seed.ops) :
    (steps.foldl Gateway.after (.start settings)).Tracks (.new (.new settings.feedCapacity) settings.labels) seed.ops := by
  have hevents : ∀ op ∈ steps.flatMap GatewayStep.inputs, op.IsEvent := by
    intro op hop
    rw [hsteps] at hop
    simp only [Seed.ops, List.mem_append, List.mem_map] at hop
    rcases hop with (⟨r, -, rfl⟩ | ⟨r, -, rfl⟩) | ⟨i, -, rfl⟩
    · trivial
    · rfl
    · trivial
  have hkeeps : ∀ e ∈ (steps.flatMap GatewayStep.inputs).filterMap ControlOp.resource?, e.2.KeepsUid := by
    intro e he
    rw [hsteps, seed.filterMap_ops.1] at he
    obtain ⟨r, -, rfl⟩ := List.mem_map.1 he
    trivial
  have htracks := (tracks_start settings).foldl_after (indexed_start settings) hevents hkeeps
  rw [hsteps, List.nil_append] at htracks
  exact htracks

/-- Let a gateway be started and be sent the items of a seed in their order, and nothing else, with any turns of its workers and any
requests in between, and let no uid of the seed occur under both kinds of resources. Turns of the workers can bring it to rest. And
whenever it is at rest, the seed is loaded exactly when no instance of the seed has a blank identity, and for every tenant with a
configuration, normalising the hosts listed once gives the same hosts as normalising them twice. -/
theorem replayed_seed_loads_iff (settings : Settings) (seed : Seed)
    (hkinds : ∀ r ∈ seed.resources, ∀ r' ∈ seed.resources, r.resource.uid = r'.resource.uid → r.kind = r'.kind)
    (steps : List GatewayStep) (hsteps : steps.flatMap GatewayStep.inputs = seed.ops) :
    let g := steps.foldl Gateway.after (.start settings)
    (∃ turns : List Worker, (g.run turns).isAtRest = true) ∧
    (g.isAtRest = true →
      (g.seedApplied seed = true ↔
        (∀ i ∈ seed.instances, Text.isBlank i.id = false) ∧
        ∀ t c, g.composer.configuration? t = some c → ∀ name,
          (∃ host ∈ c.list PropertyKey.routingDomains, Host.normalize host = some name) ↔
            ∃ host ∈ c.list PropertyKey.routingDomains, (Host.normalize host).bind Host.normalize = some name)) := by
  intro g
  have htracks : g.Tracks _ seed.ops := tracks_seed settings hsteps
  refine ⟨?_, fun hrest => ?_⟩
  · obtain ⟨turns, hturns⟩ := g.exists_settle_eq_run
    exact ⟨turns, hturns ▸ g.isAtRest_settle⟩
  · obtain ⟨hqueues, -⟩ := isAtRest_iff.1 hrest
    rw [seedApplied_iff]
    constructor
    · rintro ⟨hinstances, -, -, hbridged⟩
      refine ⟨fun i hi => ?_, fun t c hc => (htracks.caught_up_iff hrest hc).1 (hbridged t c hc)⟩
      obtain ⟨j, hlast, hid⟩ : ∃ j, IsLastOccurrence (·.id) seed.instances j ∧ j.id = i.id := exists_isLastOccurrence hi
      rw [← hid]
      exact (htracks.shows_instance_iff hqueues hlast).1 (hinstances j hlast)
    · rintro ⟨hblank, hhosts⟩
      refine ⟨fun i hlast => ?_, fun r hlast => htracks.shows_registration hqueues hlast, fun r hlast f hf => ?_,
        fun t c hc => (htracks.caught_up_iff hrest hc).2 (hhosts t c hc)⟩
      · exact (htracks.shows_instance_iff hqueues hlast).2 (hblank i hlast.mem)
      · exact htracks.shows_resource rfl hqueues (fun r' hr' huid => hkinds r' hr' r hlast.mem huid) hlast hf

/-- A seed adds a resource twice, first under one tenant and then under another one, a secret that cannot be decoded, a registration
without hosts and an instance twice. The feed has room for one event, so that the bridge lags behind the resources. At rest the seed is
loaded, and the host of the tenant that the resource left is registered as it is. -/
theorem replayed_seed_loads_iff_relabelled :
    let a : TenantId := ⟨"a", by decide⟩
    let b : TenantId := ⟨"b", by decide⟩
    let settings : Settings := ⟨⟨"127.0.0.1", 3001⟩, none, ⟨none, .text⟩, ⟨"tenant", "kind", "config"⟩, 1, none⟩
    let i (t : TenantId) : ServiceInstance := ⟨"i", t, ⟨"d", by decide⟩, "10.0.0.1", 80, false, .empty⟩
    let r (uid tenant value : String) : Resource :=
      ⟨uid, "r", .ofList [("kind", "config"), ("tenant", tenant)], .ofList [(PropertyKey.routingDomains, value)]⟩
    let seed : Seed := ⟨[⟨.configMap, r "u" "a" "A.org:80"⟩, ⟨.configMap, r "u" "b" "b.org"⟩, ⟨.secret, r "v" "a" "?"⟩],
      [⟨a, .empty⟩], [i b, i a]⟩
    let workers : List Worker := [.watch .secret, .watch .configMap, .watch .configMap, .bridge, .bridge, .bridge,
      .registrations .configuration, .registrations .configuration, .registrations .feed, .discovery, .discovery]
    let steps := GatewayStep.replay seed :: workers.map fun worker => .turn worker
    let g := steps.foldl Gateway.after (.start settings)
    (∀ r ∈ seed.resources, ∀ r' ∈ seed.resources, r.resource.uid = r'.resource.uid → r.kind = r'.kind) ∧
      steps.flatMap GatewayStep.inputs = seed.ops ∧ g.isAtRest = true ∧ g.seedApplied seed = true ∧
      g.composer.tenants = [a, b] ∧
      ∀ name, (∃ host ∈ ["A.org:80"], Host.normalize host = some name) ↔
        ∃ host ∈ ["A.org:80"], (Host.normalize host).bind Host.normalize = some name := by
  intro a b settings i r seed workers steps g
  have hkinds : ∀ r ∈ seed.resources, ∀ r' ∈ seed.resources, r.resource.uid = r'.resource.uid → r.kind = r'.kind := by
    decide
  have hsteps : steps.flatMap GatewayStep.inputs = seed.ops := by decide +kernel
  have hrest : g.isAtRest = true := by decide +kernel
  have hseed : g.seedApplied seed = true := by decide +kernel
  have hconfiguration : g.composer.configuration? a = some ⟨[("u", (r "u" "a" "A.org:80").data)]⟩ := by decide +kernel
  obtain ⟨-, hloads⟩ := replayed_seed_loads_iff settings seed hkinds steps hsteps
  obtain ⟨-, hhosts⟩ := (hloads hrest).1 hseed
  exact ⟨hkinds, hsteps, hrest, hseed, by decide +kernel, hhosts a _ hconfiguration⟩

end Gateway

end TenantGateway
