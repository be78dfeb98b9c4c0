import TenantGateway.Catalog.History
import TenantGateway.ControlPlane
import TenantGateway.Proofs.Domain.Bridge
import TenantGateway.Proofs.Domain.Registration
import TenantGateway.Proofs.Router
import TenantGateway.Proofs.Sync

/-!
# Routes of a control plane

A run of events, and of steps of the bridge, tracks its histories (`ControlPlane.Tracks`): the configuration is that of the live
resources, the registrations of the ownership feed are those that its events leave, the instances those that discovery leaves,
and the bridge follows the configuration. Once the bridge has caught up, requests are routed by these histories alone
(`ControlPlane.run_routes_by_claims`).
-/

namespace TenantGateway

/-- The hosts wanted by a configuration are those that it lists, as they are registered. -/
theorem Registration.mem_wanted {t : TenantId} {value : Option Configuration} {name : String} :
    (∃ hosts, Registration.wanted t value = some hosts ∧ name ∈ hosts.keys) ↔
      ∃ configuration, value = some configuration ∧ ∃ host ∈ configuration.list PropertyKey.routingDomains,
        (Host.normalize host).bind Host.normalize = some name := by
  cases value with
  | none => simp [wanted]
  | some configuration =>
    unfold wanted
    dsimp only
    cases hlist : configuration.list PropertyKey.routingDomains with
    | nil => simp [hlist]
    | cons first rest =>
      constructor
      · rintro ⟨hosts, he, hmem⟩
        obtain rfl := Option.some.inj he
        exact ⟨configuration, rfl, hlist ▸ mem_normalized_ofHosts.1 hmem⟩
      · rintro ⟨_, he, hmem⟩
        obtain rfl := Option.some.inj he
        exact ⟨_, rfl, mem_normalized_ofHosts.2 (hlist ▸ hmem)⟩

/-- Whether the histories of a run make a tenant claim a host given in normalised spelling: the ownership feed left it the host, or
its live resources list it. What a configuration lists is normalised by the bridge and once more when it is registered. -/
def ControlOp.Claims (s : LabelSelector) (ops : List ControlOp) (t : TenantId) (name : String) : Prop :=
  (∃ hosts, DomainEvent.hostsAfter t (ops.filterMap ControlOp.owned?) = some hosts ∧ name ∈ hosts.keys) ∨
    ∃ configuration,
      (LiveResources.empty.afterAll s (ops.filterMap ControlOp.resource?)).configuration? s t = some configuration ∧
      ∃ host ∈ configuration.list PropertyKey.routingDomains, (Host.normalize host).bind Host.normalize = some name

namespace ControlPlane

/-- The parts of a control plane are where the live resources, the events of the ownership feed and the reports of discovery
have brought them, and the bridge is on its way. -/
structure Tracks (p : ControlPlane) (s : LabelSelector) (live : LiveResources) (owned : List DomainEvent)
    (found : List DiscoveryEvent) : Prop where
  selector : p.sync.selector = s
  sync : p.sync.Follows live
  bridge : p.bridge.Follows p.composer p.router.resolver
  resolver : p.router.resolver.Sound
  owned : ∀ t, p.router.resolver.hosts? .feed t = DomainEvent.hostsAfter t owned
  catalog : p.router.catalog.Lists (DiscoveryEvent.live found)

variable {p : ControlPlane} {s : LabelSelector} {live : LiveResources} {owned : List DomainEvent} {found : List DiscoveryEvent}

theorem hosts?_new (o : Origin) (t : TenantId) : Resolver.new.hosts? o t = none := rfl

theorem tracks_new (capacity : Nat) (s : LabelSelector) : (ControlPlane.new capacity s).Tracks s .empty [] [] :=
  ⟨rfl, Sync.follows_new capacity s, Bridge.follows_new _ [] (hosts?_new .configuration), Resolver.sound_new,
    hosts?_new .feed, Catalog.lists_new⟩

/-! ## One operation -/

/-- Every event about a resource is handled, and its configuration is ahead of the bridge. -/
theorem Tracks.resource (h : p.Tracks s live owned found) {kind : ResourceKind} {e : ResourceEvent}
    (ha : live.Admits kind e) (order : List TenantId) : (p.perform (.resource kind e order)).2.Tracks s (live.after s kind e) owned found := by
  obtain ⟨outcome, sync, hhandle, hselector, hgrows, hfollows⟩ := h.sync.handle ha order
  rw [h.selector] at hselector hfollows
  rw [perform, hhandle]
  exact ⟨hselector, hfollows, h.bridge.grow hgrows, h.resolver, h.owned, h.catalog⟩

/-- An event of the ownership feed does not concern the bridge. -/
theorem Tracks.domain (h : p.Tracks s live owned found) (e : DomainEvent) :
    (p.perform (.domain .feed e)).2.Tracks s live (owned ++ [e]) found := by
  have hhosts : ∀ o t, (p.router.resolver.apply .feed e).hosts? o t = _ := h.resolver.hosts?_apply .feed e
  refine ⟨h.selector, h.sync, h.bridge.congr fun t => (hhosts .configuration t).trans (if_neg (by decide)),
    h.resolver.apply .feed e, fun t => ?_, h.catalog⟩
  refine (hhosts .feed t).trans ((if_pos rfl).trans ?_)
  rw [h.owned t, DomainEvent.hostsAfter_snoc]

/-- A report of discovery concerns the catalog only. -/
theorem Tracks.discovery (h : p.Tracks s live owned found) (e : DiscoveryEvent) :
    (p.perform (.discovery e)).2.Tracks s live owned (found ++ [e]) := by
  have hlists := h.catalog.apply e
  have hlive : DiscoveryEvent.live (found ++ [e]) = e.applyTo (DiscoveryEvent.live found) := List.foldl_append
  rw [← hlive] at hlists
  rw [perform]
  cases happly : p.router.catalog.apply e with
  | ok catalog =>
    rw [happly] at hlists
    exact ⟨h.selector, h.sync, h.bridge, h.resolver, h.owned, hlists⟩
  | error error =>
    rw [happly] at hlists
    exact ⟨h.selector, h.sync, h.bridge, h.resolver, h.owned, hlists⟩

/-- A step of the bridge registers what it publishes, and does not concern the ownership feed. -/
theorem Tracks.bridgeStep (h : p.Tracks s live owned found) (order : List TenantId) :
    (p.perform (.bridge order)).2.Tracks s live owned found := by
  have hstep := h.bridge.step h.resolver order
  refine ⟨h.selector, h.sync, hstep, h.resolver.applyAll _ _, fun t => ?_, h.catalog⟩
  refine (h.resolver.hosts?_applyAll .configuration _ .feed t).trans ((if_neg (by decide)).trans ?_)
  exact h.owned t

/-! ## Runs -/

theorem after_cons (p : ControlPlane) (op : ControlOp) (ops : List ControlOp) :
    p.after (op :: ops) = (p.perform op).2.after ops :=
  rfl

/-- A run of events and of steps of the bridge tracks its histories. -/
theorem Tracks.run (h : p.Tracks s live owned found) {ops : List ControlOp} (hops : ∀ op ∈ ops, op.IsEvent)
    (hwf : live.AdmitsAll s (ops.filterMap ControlOp.resource?)) :
    (p.after ops).Tracks s (live.afterAll s (ops.filterMap ControlOp.resource?))
      (owned ++ ops.filterMap ControlOp.owned?) (found ++ ops.filterMap ControlOp.discovery?) := by
  induction ops generalizing p live owned found with
  | nil =>
    simp only [List.filterMap_nil, List.append_nil]
    exact h
  | cons op ops ih =>
    have hrest : ∀ op ∈ ops, op.IsEvent := fun op' hop => hops op' (List.mem_cons_of_mem op hop)
    rw [after_cons]
    cases op with
    | resource kind e order => exact ih (h.resource hwf.1 order) hrest hwf.2
    | domain origin e =>
      obtain rfl : origin = .feed := hops (.domain origin e) List.mem_cons_self
      have hnext := ih (h.domain e) hrest hwf
      rw [List.append_assoc] at hnext
      exact hnext
    | discovery e =>
      have hnext := ih (h.discovery e) hrest hwf
      rw [List.append_assoc] at hnext
      exact hnext
    | bridge order => exact ih (h.bridgeStep order) hrest hwf
    | merge fragment => exact (hops (.merge fragment) List.mem_cons_self).elim
    | revoke tenant id => exact (hops (.revoke tenant id) List.mem_cons_self).elim
    | closeComposer => exact (hops .closeComposer List.mem_cons_self).elim
    | resolve host => exact (hops (.resolve host) List.mem_cons_self).elim
    | route host => exact (hops (.route host) List.mem_cons_self).elim

/-- Once the bridge has caught up, a tenant claims what the histories make it claim. -/
theorem Tracks.claims_iff {ops : List ControlOp}
    (h : p.Tracks s (LiveResources.empty.afterAll s (ops.filterMap ControlOp.resource?)) (ops.filterMap ControlOp.owned?)
      (ops.filterMap ControlOp.discovery?)) (hidle : p.bridge.isIdle p.composer = true) (t : TenantId) (name : String) :
    p.router.resolver.Claims t name ↔ ControlOp.Claims s ops t name := by
  have hwanted := h.bridge.hosts?_of_isIdle hidle t
  have hconfiguration := h.sync.carries.configuration t
  rw [h.selector] at hconfiguration
  rw [Resolver.claims_iff_hosts?]
  constructor
  · rintro ⟨origin, hosts, hhosts, hmem⟩
    cases origin with
    | feed => exact Or.inl ⟨hosts, h.owned t ▸ hhosts, hmem⟩
    | configuration => exact Or.inr (Registration.mem_wanted.1 ⟨hosts, hconfiguration ▸ hwanted ▸ hhosts, hmem⟩)
  · rintro (⟨hosts, hhosts, hmem⟩ | hlisted)
    · exact ⟨.feed, hosts, (h.owned t).trans hhosts, hmem⟩
    · obtain ⟨hosts, hhosts, hmem⟩ := Registration.mem_wanted.2 hlisted
      exact ⟨.configuration, hosts, hwanted.trans (hconfiguration ▸ hhosts), hmem⟩

/-- Whatever resource events, events of the ownership feed, reports of discovery and steps of the bridge a run interleaves, once
the bridge has nothing left to receive, a request for a host is routed as the histories say: to the least live instance of the only
tenant that claims the host, or to none when that tenant has no instance; to nothing when several tenants, given in ascending
order, claim the host, or none does. -/
theorem run_routes_by_claims (capacity : Nat) (s : LabelSelector) (ops : List ControlOp) (hops : ∀ op ∈ ops, op.IsEvent)
    (hwf : LiveResources.empty.AdmitsAll s (ops.filterMap ControlOp.resource?))
    (hidle : ((ControlPlane.new capacity s).after ops).bridge.isIdle ((ControlPlane.new capacity s).after ops).composer = true)
    (host : String) :
    let answer := (((ControlPlane.new capacity s).after ops).router.route host).1
    let live := (DiscoveryEvent.live (ops.filterMap ControlOp.discovery?)).map Prod.snd
    let claims := ControlOp.Claims s ops
    (∀ i, answer = .ok i ↔ ∃ t, (∃ name, Host.normalize host = some name ∧ ∀ t', claims t' name ↔ t' = t) ∧
      i.IsLeast (live.filter fun i => i.tenant = t)) ∧
    (∀ t, answer = .error (.noInstances t) ↔ (∃ name, Host.normalize host = some name ∧ ∀ t', claims t' name ↔ t' = t) ∧
      live.filter (fun i => i.tenant = t) = []) ∧
    (∀ name ts, answer = .error (.unresolved (.collision name ts)) ↔
      Host.normalize host = some name ∧ 2 ≤ ts.length ∧ (ts.Pairwise fun a b => a.text < b.text) ∧
        ∀ t, t ∈ ts ↔ claims t name) ∧
    (answer = .error (.unresolved .noMatch) ↔ ∀ t name, Host.normalize host = some name → ¬claims t name) := by
  intro answer live claims
  have htracks := (tracks_new capacity s).run hops hwf
  have hclaims : ∀ t name, _ ↔ claims t name := htracks.claims_iff hidle
  obtain ⟨hok, hnone, herror⟩ := Router.route_iff htracks.catalog host
  obtain ⟨howner, hnomatch, hcollision⟩ := htracks.resolver.owner_iff host
  simp only [hclaims] at howner hnomatch hcollision
  refine ⟨fun i => ?_, fun t => ?_, fun name ts => ?_, ?_⟩
  · exact (hok i).trans (exists_congr fun t => and_congr_left fun _ => howner t)
  · exact (hnone t).trans (and_congr_left fun _ => howner t)
  · exact (herror _).trans (hcollision name ts)
  · exact (herror _).trans hnomatch

/-- A tenant whose live resource lists a host is the only one that claims it, and its instance is chosen. -/
theorem run_routes_by_claims_listed :
    let a : TenantId := ⟨"a", by decide⟩
    let b : TenantId := ⟨"b", by decide⟩
    let s : LabelSelector := ⟨"tenant", "kind", "config"⟩
    let r : Resource :=
      ⟨"u", "r", .ofList [("kind", "config"), ("tenant", "a")], .ofList [(PropertyKey.routingDomains, "X.org.")]⟩
    let i : ServiceInstance := ⟨"i", a, ⟨"d", by decide⟩, "10.0.0.1", 80, false, .empty⟩
    let ops : List ControlOp :=
      [.domain .feed (.put (.ofHosts b ["y.org"])), .resource .configMap (.added r), .bridge, .discovery (.add i)]
    (((ControlPlane.new 1 s).after ops).router.route "x.org:80").1 = .ok i ∧
      ∃ t, (∃ name, Host.normalize "x.org:80" = some name ∧ ∀ t', ControlOp.Claims s ops t' name ↔ t' = t) ∧
        i.IsLeast (((DiscoveryEvent.live (ops.filterMap ControlOp.discovery?)).map Prod.snd).filter fun i => i.tenant = t) := by
  intro a b s r i ops
  have hops : ∀ op ∈ ops, op.IsEvent := by simp [ops, ControlOp.IsEvent]
  have hwf : LiveResources.empty.AdmitsAll s (ops.filterMap ControlOp.resource?) := ⟨rfl, trivial⟩
  have hidle : ((ControlPlane.new 1 s).after ops).bridge.isIdle ((ControlPlane.new 1 s).after ops).composer = true := by decide
  have hroute : (((ControlPlane.new 1 s).after ops).router.route "x.org:80").1 = .ok i := by decide
  exact ⟨hroute, ((run_routes_by_claims 1 s ops hops hwf hidle "x.org:80").1 i).1 hroute⟩

end ControlPlane

end TenantGateway
