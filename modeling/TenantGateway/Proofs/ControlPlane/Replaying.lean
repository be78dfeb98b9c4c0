import TenantGateway.Proofs.Catalog.Order
import TenantGateway.Proofs.Composer.Whole
import TenantGateway.Proofs.ControlPlane
import TenantGateway.Proofs.Domain.History
import TenantGateway.Proofs.Filing

/-!
# Replaying a seed again

A pass over a seed files the layers of its fragments, its registrations and its instances one after the other, each with what was
there before (`Sync.configuration?_added`, `Resolver.Sound.items_put`, `Catalog.Lists.add_all`). What this leaves does not change when
the same is filed once more, although every step of the second pass changes an order; so a second pass leaves every answer as the first
one left it (`ControlPlane.replay_again_changes_nothing`).
-/

namespace TenantGateway

/-! ## The parts -/

/-- The layer that a resource of a seed gives a tenant. -/
def SeedResource.layerFor? (s : LabelSelector) (t : TenantId) (r : SeedResource) : Option (String × Properties) :=
  (s.fragment? r.kind r.resource).bind fun f => if f.tenant = t then some (f.id, f.properties) else none

namespace Seed

/-- The layers that a seed gives a tenant, in order. -/
def layersFor (seed : Seed) (s : LabelSelector) (t : TenantId) : List (String × Properties) :=
  seed.resources.filterMap (·.layerFor? s t)

/-- The claims that a seed makes, under their keys. -/
def claims (seed : Seed) : List ((Origin × TenantId) × Claim) :=
  seed.registrations.map fun r => ((.feed, r.tenant), ⟨.feed, r.normalized⟩)

/-- The instances of a seed that have an identity, under it. -/
def identified (seed : Seed) : List (String × ServiceInstance) :=
  seed.instances.filterMap fun i => i.identity?.map fun id => (id, i)

end Seed

namespace Sync

variable {s : Sync}

/-- The handling of a resource that is added. -/
def addition (r : SeedResource) : SyncOp := ⟨r.kind, .added r.resource, []⟩

/-- An added resource leaves an open composer open, and merges its layer if it maps to one. -/
theorem configuration?_addition (hopen : s.composer.feed.closed = false) (r : SeedResource) :
    let s' := (s.perform (addition r)).2
    s'.composer.feed.closed = false ∧ s'.selector = s.selector ∧ ∀ t, s'.composer.configuration? t =
      Configuration.withLayers (s.composer.configuration? t) (r.layerFor? s.selector t).toList := by
  cases hf : s.selector.fragment? r.kind r.resource with
  | none =>
    have hperform : s.perform (addition r) = (.ok .skipped, (s.skip r.kind).2) := by
      rw [perform, addition, handle, fragment?, hf]
      rfl
    rw [hperform]
    refine ⟨hopen, rfl, fun t => ?_⟩
    rw [SeedResource.layerFor?, hf]
    rfl
  | some f =>
    obtain ⟨composer, hmerge⟩ : ∃ composer, s.composer.merge f = .ok composer := ⟨_, Composer.merge_of_open hopen f⟩
    have hperform : s.perform (addition r) = (.ok .merged, s.withComposer composer) := by
      rw [perform, addition, handle, fragment?, hf]
      dsimp only
      rw [merge, hmerge]
      rfl
    rw [hperform]
    refine ⟨(Composer.closed_of_merge hmerge).trans hopen, rfl, fun t => (Composer.configuration?_of_merge hmerge t).trans ?_⟩
    rw [SeedResource.layerFor?, hf, Option.bind_some]
    split <;> rfl

/-- Added resources leave an open composer open, and merge their layers in turn. -/
theorem configuration?_added (hopen : s.composer.feed.closed = false) (resources : List SeedResource) :
    let s' := (performAll perform s (resources.map addition)).2
    s'.composer.feed.closed = false ∧ s'.selector = s.selector ∧ ∀ t, s'.composer.configuration? t =
      Configuration.withLayers (s.composer.configuration? t) (resources.filterMap (·.layerFor? s.selector t)) := by
  induction resources generalizing s with
  | nil => exact ⟨hopen, rfl, fun _ => rfl⟩
  | cons r resources ih =>
    obtain ⟨hopen', hselector, hstep⟩ := configuration?_addition hopen r
    obtain ⟨hopen'', hselector', hrest⟩ := ih hopen'
    rw [List.map_cons, performAll_cons]
    refine ⟨hopen'', hselector'.trans hselector, fun t => ?_⟩
    rw [hrest, hstep, hselector, ← Configuration.withLayers_append]
    simp only [List.filterMap_eq_flatMap_toList, List.flatMap_cons]

end Sync

/-- Registrations of the ownership feed are filed in turn. -/
theorem Resolver.Sound.items_put {r : Resolver} (h : r.Sound) (registrations : List Registration) :
    (r.applyAll .feed (registrations.map .put)).claims.items = Entries.fileAll r.claims.items
      (registrations.map fun registration => ((.feed, registration.tenant), ⟨.feed, registration.normalized⟩)) := by
  induction registrations generalizing r with
  | nil => rfl
  | cons registration registrations ih =>
    refine (ih (h.apply .feed (.put registration))).trans ?_
    rw [h.items_apply]
    rfl

/-- Instances with an identity are filed in turn; the others are left out. -/
theorem Catalog.Lists.add_all {c : Catalog} {live : List (String × ServiceInstance)} (h : c.Lists live)
    (instances : List ServiceInstance) : (c.applyAll (instances.map .add)).Lists
      (Entries.fileAll live (instances.filterMap fun i => i.identity?.map fun id => (id, i))) := by
  induction instances generalizing c live with
  | nil => exact h
  | cons i instances ih =>
    have hnext := ih (h.apply (.add i))
    cases hid : i.identity? with
    | none =>
      rw [DiscoveryEvent.applyTo_add_none hid] at hnext
      rw [List.filterMap_cons_none (by rw [hid]; rfl)]
      exact hnext
    | some id =>
      rw [DiscoveryEvent.applyTo_add_some hid] at hnext
      rw [List.filterMap_cons_some (b := (id, i)) (by rw [hid]; rfl)]
      exact hnext

namespace ControlPlane

/-! ## Indexed control planes -/

/-- The claims are sound, and the catalog lists its instances in both of its indices in the order in which they were last added. -/
structure Indexed (p : ControlPlane) : Prop where
  resolver : p.router.resolver.Sound
  catalog : p.router.catalog.Lists p.router.catalog.instances.items
  inOrder : p.router.catalog.instances.InOrder

variable {p q : ControlPlane}

theorem indexed_new (capacity : Nat) (s : LabelSelector) : (ControlPlane.new capacity s).Indexed :=
  ⟨Resolver.sound_new, Catalog.lists_new, Catalog.inOrder_new⟩

/-- Other claims that are sound can take the place of the claims. -/
theorem Indexed.withResolver (h : p.Indexed) {resolver : Resolver} (hsound : resolver.Sound) : (p.withResolver resolver).Indexed :=
  ⟨hsound, h.catalog, h.inOrder⟩

/-- A report of discovery is applied to the catalog, or changes nothing when it cannot be. -/
theorem perform_discovery (p : ControlPlane) (e : DiscoveryEvent) :
    (p.perform (.discovery e)).2 = p.withCatalog ((p.router.catalog.apply e).toOption.getD p.router.catalog) := by
  rw [perform]
  cases p.router.catalog.apply e <;> rfl

/-- Every operation keeps the indices. -/
theorem Indexed.perform (h : p.Indexed) (op : ControlOp) : (p.perform op).2.Indexed := by
  have haside : ∀ sync bridge, Indexed { p with sync, bridge } := fun _ _ => ⟨h.resolver, h.catalog, h.inOrder⟩
  cases op with
  | discovery e =>
    rw [perform_discovery]
    have hlists := h.catalog.apply e
    exact ⟨h.resolver, hlists.items.symm ▸ hlists, Catalog.inOrder_apply h.inOrder h.catalog.sound e⟩
  | domain origin e => exact h.withResolver (h.resolver.apply origin e)
  | bridge order => exact (haside _ _).withResolver (h.resolver.applyAll .configuration _)
  | resolve host => exact h.withResolver (h.resolver.resolve host)
  | route host => exact ⟨h.resolver.resolve host, h.catalog, h.inOrder⟩
  | merge fragment =>
    rw [ControlPlane.perform]
    split
    · exact haside _ _
    · exact h
  | revoke tenant id =>
    rw [ControlPlane.perform]
    split
    · exact haside _ _
    · exact h
  | closeComposer => exact haside _ _
  | resource kind event order =>
    rw [ControlPlane.perform]
    split
    · exact haside _ _
    · exact h

/-- Every run keeps the indices sound. -/
theorem Indexed.after (h : p.Indexed) (ops : List ControlOp) : (p.after ops).Indexed :=
  performAll_invariant (P := Indexed) (fun op _ _ hp => hp.perform op) h

/-! ## One pass -/

theorem after_append (p : ControlPlane) (ops more : List ControlOp) : p.after (ops ++ more) = (p.after ops).after more := by
  rw [ControlPlane.after, performAll_append]
  rfl

/-- Added resources are handled by the synchronisation. -/
theorem after_added (p : ControlPlane) (resources : List SeedResource) :
    p.after (resources.map fun r => .resource r.kind (.added r.resource)) =
      { p with sync := (performAll Sync.perform p.sync (resources.map Sync.addition)).2 } := by
  induction resources generalizing p with
  | nil => rfl
  | cons r resources ih =>
    have hstep : (p.perform (.resource r.kind (.added r.resource))).2 =
        { p with sync := (p.sync.perform (Sync.addition r)).2 } := by
      rw [perform, Sync.perform, Sync.addition]
      cases p.sync.handle r.kind (.added r.resource) [] <;> rfl
    rw [List.map_cons, after_cons, hstep, ih]
    rfl

/-- Registrations are applied to the resolver. -/
theorem after_registered (p : ControlPlane) (registrations : List Registration) :
    p.after (registrations.map fun r => .domain .feed (.put r)) =
      p.withResolver (p.router.resolver.applyAll .feed (registrations.map .put)) := by
  induction registrations generalizing p with
  | nil => rfl
  | cons r registrations ih => exact ih _

/-- Discovered instances are applied to the catalog. -/
theorem after_discovered (p : ControlPlane) (instances : List ServiceInstance) :
    p.after (instances.map fun i => .discovery (.add i)) =
      p.withCatalog (p.router.catalog.applyAll (instances.map .add)) := by
  induction instances generalizing p with
  | nil => rfl
  | cons i instances ih =>
    rw [List.map_cons, after_cons, perform_discovery, ih]
    rfl

/-- What a pass over a seed does to the parts. -/
theorem after_seed (p : ControlPlane) (seed : Seed) : p.after seed.ops =
    ⟨(performAll Sync.perform p.sync (seed.resources.map Sync.addition)).2, p.bridge,
      ⟨p.router.resolver.applyAll .feed (seed.registrations.map .put), p.router.catalog.applyAll (seed.instances.map .add),
        p.router.metrics⟩⟩ := by
  rw [Seed.ops, after_append, after_append, after_added, after_registered, after_discovered]
  rfl

/-- What a pass over a seed leaves of a control plane whose composer is open: every tenant's configuration with the layers of the seed
merged in turn, and its registrations and instances filed in turn. -/
structure Replayed (p : ControlPlane) (seed : Seed) (q : ControlPlane) : Prop where
  isOpen : q.composer.feed.closed = false
  selector : q.sync.selector = p.sync.selector
  configuration? : ∀ t, q.composer.configuration? t =
    Configuration.withLayers (p.composer.configuration? t) (seed.layersFor p.sync.selector t)
  claims : q.router.resolver.claims.items = Entries.fileAll p.router.resolver.claims.items seed.claims
  instances : q.router.catalog.instances.items = Entries.fileAll p.router.catalog.instances.items seed.identified

/-- A seed that is replayed on an open control plane leaves what it says. -/
theorem Indexed.replayed (h : p.Indexed) (hopen : p.composer.feed.closed = false) (seed : Seed) :
    p.Replayed seed (p.after seed.ops) := by
  rw [after_seed]
  obtain ⟨hopen', hselector, hconf⟩ := Sync.configuration?_added hopen seed.resources
  exact ⟨hopen', hselector, hconf, h.resolver.items_put seed.registrations, (h.catalog.add_all seed.instances).items⟩

/-- A second pass leaves what the first one left. -/
theorem Replayed.again {once twice : ControlPlane} {seed : Seed} (h : p.Replayed seed once) (h' : once.Replayed seed twice) :
    (∀ t, twice.composer.configuration? t = once.composer.configuration? t) ∧
      twice.router.resolver.claims.items = once.router.resolver.claims.items ∧
      twice.router.catalog.instances.items = once.router.catalog.instances.items := by
  refine ⟨fun t => ?_, ?_, ?_⟩
  · rw [h'.configuration?, h.selector, h.configuration?, Configuration.withLayers_withLayers]
  · rw [h'.claims, h.claims, Entries.fileAll_fileAll]
  · rw [h'.instances, h.instances, Entries.fileAll_fileAll]

/-! ## The same answers -/

/-- Two control planes answer the same about everything: configurations with the order of their layers, registrations, instances with
their order, and routes. -/
structure SameAnswers (p q : ControlPlane) : Prop where
  configuration? : ∀ t, q.composer.configuration? t = p.composer.configuration? t
  tenants : q.composer.tenants = p.composer.tenants
  owners : ∀ id order, q.composer.owners id order = p.composer.owners id order
  registration? : ∀ origin t, q.router.resolver.registration? origin t = p.router.resolver.registration? origin t
  domains : ∀ t, q.router.resolver.domains t = p.router.resolver.domains t
  registrations : q.router.resolver.size = p.router.resolver.size
  resolve : ∀ host, (q.router.resolver.resolve host).1 = (p.router.resolver.resolve host).1
  get? : ∀ id, q.router.catalog.get? id = p.router.catalog.get? id
  instances : q.router.catalog.size = p.router.catalog.size
  ofTenant : ∀ tenant, q.router.catalog.ofTenant tenant = p.router.catalog.ofTenant tenant
  ofDeployment? : ∀ deployment, q.router.catalog.ofDeployment? deployment = p.router.catalog.ofDeployment? deployment
  route : ∀ host, (q.router.route host).1 = (p.router.route host).1

/-- The configurations, the claims and the instances decide about all answers. -/
theorem Indexed.sameAnswers (h : p.Indexed) (h' : q.Indexed)
    (hconf : ∀ t, q.composer.configuration? t = p.composer.configuration? t)
    (hclaims : q.router.resolver.claims.items = p.router.resolver.claims.items)
    (hinstances : q.router.catalog.instances.items = p.router.catalog.instances.items) : p.SameAnswers q := by
  have hentries : q.composer.feed.entries = p.composer.feed.entries := Dictionary.ext_get? hconf
  have hregistration : ∀ origin t, q.router.resolver.registration? origin t = p.router.resolver.registration? origin t := by
    intro origin t
    rw [Resolver.registration?, Resolver.registration?, Store.get?, Store.get?, hclaims]
  have howner : ∀ host, q.router.resolver.owner host = p.router.resolver.owner host :=
    h'.resolver.owner_congr h.resolver hregistration
  have hlists : q.router.catalog.Lists p.router.catalog.instances.items := hinstances ▸ h'.catalog
  have htenant : ∀ tenant, q.router.catalog.ofTenant tenant = p.router.catalog.ofTenant tenant := by
    intro tenant
    rw [hlists.ofTenant_eq h'.inOrder, h.catalog.ofTenant_eq h.inOrder]
  exact {
    configuration? := hconf
    tenants := congrArg Dictionary.keys hentries
    owners := fun id order => by
      simp only [Composer.owners, Composer.holds, hconf, hentries]
    registration? := hregistration
    domains := Resolver.domains_congr hregistration
    registrations := h'.resolver.size_congr h.resolver hregistration
    resolve := fun host => by
      rw [Resolver.resolve_fst, Resolver.resolve_fst, howner]
    get? := fun id => by
      rw [hlists.get?_eq, h.catalog.get?_eq]
    instances := by
      rw [hlists.size_eq, h.catalog.size_eq]
    ofTenant := htenant
    ofDeployment? := fun deployment => by
      rw [hlists.ofDeployment?_eq h'.inOrder, h.catalog.ofDeployment?_eq h.inOrder]
    route := fun host => by
      simp only [Router.route_fst, Router.select, howner, htenant] }

/-- Let any run have left the composer of a control plane open, and let the resources, registrations and instances of a seed be handled in
their order, with whatever repetitions, changes of labels, resources that contribute nothing and instances without identity, and then
all of them once more. The second pass leaves every answer what the first one made it, the order of layers and of instances included.
What the first pass makes of the layers of a tenant, of the claims and of the instances is those of other names, in their order, and
behind them the last one of the seed under each name, in the order of the seed. -/
theorem replay_again_changes_nothing (capacity : Nat) (s : LabelSelector) (ops : List ControlOp) (seed : Seed)
    (hopen : ((ControlPlane.new capacity s).after ops).composer.feed.closed = false) :
    let p := (ControlPlane.new capacity s).after ops
    let once := p.after seed.ops
    let layers := seed.layersFor p.sync.selector
    once.SameAnswers (once.after seed.ops) ∧
    (∀ t, once.composer.layersOf t =
      Entries.besides (p.composer.layersOf t) (layers t) ++ lastOccurrences Prod.fst (layers t)) ∧
    once.router.resolver.claims.items =
      Entries.besides p.router.resolver.claims.items seed.claims ++ lastOccurrences Prod.fst seed.claims ∧
    once.router.catalog.instances.items =
      Entries.besides p.router.catalog.instances.items seed.identified ++ lastOccurrences Prod.fst seed.identified := by
  intro p once layers
  have hp : p.Indexed := (indexed_new capacity s).after ops
  have honce : once.Indexed := hp.after seed.ops
  have hfirst : p.Replayed seed once := hp.replayed hopen seed
  have hsecond : once.Replayed seed (once.after seed.ops) := honce.replayed hfirst.isOpen seed
  obtain ⟨hconf, hclaims, hinstances⟩ := hfirst.again hsecond
  refine ⟨honce.sameAnswers (honce.after seed.ops) hconf hclaims hinstances, fun t => ?_, ?_, ?_⟩
  · rw [Composer.layersOf, hfirst.configuration?, Configuration.layers_withLayers, Entries.fileAll_eq]
    rfl
  · exact hfirst.claims.trans (Entries.fileAll_eq _ _)
  · exact hfirst.instances.trans (Entries.fileAll_eq _ _)

/-- A seed whose first resource comes again for another tenant and once more as it was, whose last resource maps to nothing, and whose
first instance comes again behind one without identity: the first resource ends up above the second, the first instance behind the
second, and a second pass leaves them there. -/
theorem replay_again_changes_nothing_repeated :
    let a : TenantId := ⟨"a", by decide⟩
    let s : LabelSelector := ⟨"tenant", "kind", "config"⟩
    let resource (uid tenant : String) : SeedResource :=
      ⟨.configMap, ⟨uid, "r", .ofList [("kind", "config"), ("tenant", tenant)], .empty⟩⟩
    let i : ServiceInstance := ⟨"i", a, ⟨"d", by decide⟩, "10.0.0.1", 80, false, .empty⟩
    let seed : Seed := ⟨[resource "u" "a", resource "v" "a", resource "u" "b", resource "u" "a", resource "w" " "],
      [.ofHosts a ["x.org"], .ofHosts a ["y.org"]], [i, { i with id := "j" }, { i with id := " " }, i]⟩
    let p := (ControlPlane.new 1 s).after [.discovery (.add { i with id := "k" })]
    let once := p.after seed.ops
    let twice := once.after seed.ops
    p.composer.feed.closed = false ∧ once.SameAnswers twice ∧ twice.composer.layersOf a = [("v", .empty), ("u", .empty)] ∧
      (twice.router.catalog.ofTenant "a").map (·.id) = ["k", "j", "i"] ∧ (twice.router.resolver.resolve "y.org").1 = .ok a := by
  intro a s resource i seed p once twice
  have hopen : p.composer.feed.closed = false := by decide
  have hsame : once.SameAnswers twice := (replay_again_changes_nothing 1 s [.discovery (.add { i with id := "k" })] seed hopen).1
  have hlayers : once.composer.layersOf a = [("v", .empty), ("u", .empty)] := by decide
  have htenant : (once.router.catalog.ofTenant "a").map (·.id) = ["k", "j", "i"] := by decide
  have hresolve : (once.router.resolver.resolve "y.org").1 = .ok a := by decide
  refine ⟨hopen, hsame, ?_, ?_, ?_⟩
  · rw [Composer.layersOf, hsame.configuration? a]
    exact hlayers
  · rw [hsame.ofTenant "a"]
    exact htenant
  · rw [hsame.resolve "y.org"]
    exact hresolve

end ControlPlane

end TenantGateway
