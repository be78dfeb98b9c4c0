import TenantGateway.ControlPlane.Metering
import TenantGateway.Proofs.Metrics
import TenantGateway.Proofs.Router

/-!
# What resolving, listing and routing meter

A collision is counted when a host is looked up, and the numbers of registrations and of instances are set whenever an event is applied
to them (`Resolver.Steps.registrations`, `Catalog.Steps.instances`). A route is counted when there are several instances to choose from,
and by the reason for which it failed (`Router.metrics_route`).
-/

namespace TenantGateway

namespace Resolver

variable {r : Resolver}

/-- Whether several tenants claim a host. -/
def isContested (r : Resolver) (host : String) : Bool :=
  match r.owner host with
  | .error (.collision _ _) => true
  | _ => false

/-- The answer to a lookup tells a collision. -/
theorem collides_resolve (r : Resolver) (host : String) :
    (ControlAnswer.resolved (r.resolve host).1).collides = r.isContested host := by
  rw [resolve_fst, isContested]
  cases r.owner host with
  | ok t => rfl
  | error e => cases e <;> rfl

/-- Looking a host up counts a collision. -/
theorem metrics_resolve (r : Resolver) (host : String) :
    (r.resolve host).2.metrics = r.metrics.note (if r.isContested host then some .collisions else none) := by
  rw [resolve, isContested]
  cases r.owner host with
  | ok t => rfl
  | error e => cases e <;> rfl

/-- What an operation does to a resolver, with whether it meets a collision and whether it applies an event. -/
inductive Steps (r : Resolver) : Bool → Bool → Resolver → Prop
  | aside : Steps r false false r
  | resolve (host : String) : Steps r (r.isContested host) false (r.resolve host).2
  | applyAll (origin : Origin) (events : List DomainEvent) : Steps r false (!events.isEmpty) (r.applyAll origin events)

variable {r' : Resolver} {collides registers : Bool}

/-- A step of the resolver keeps it sound. -/
theorem Steps.sound (h : r.Steps collides registers r') (hs : r.Sound) : r'.Sound := by
  cases h with
  | aside => exact hs
  | resolve host => exact hs.resolve host
  | applyAll origin events => exact hs.applyAll origin events

theorem Steps.keptBy (h : r.Steps collides registers r') (hkept : r.metrics.KeptBy .resolver) : r'.metrics.KeptBy .resolver := by
  cases h with
  | aside => exact hkept
  | resolve host =>
    rw [metrics_resolve]
    exact hkept.note (by simp [Metric.keeper])
  | applyAll origin events =>
    induction events generalizing r with
    | nil => exact hkept
    | cons e events ih => exact ih (r := r.apply origin e) (hkept.set rfl rfl _)

/-- Applying events sets the number of registrations, and no other reading changes. -/
theorem get?_metrics_applyAll (r : Resolver) (origin : Origin) (events : List DomainEvent) (m : Metric) :
    (r.applyAll origin events).metrics.get? m =
      if events ≠ [] ∧ .registrations = m then some (r.applyAll origin events).size else r.metrics.get? m := by
  induction events using List.reverseRecOn with
  | nil => simp [Resolver.applyAll]
  | append_singleton events e ih =>
    have hlast : r.applyAll origin (events ++ [e]) = (r.applyAll origin events).apply origin e := List.foldl_append
    rw [hlast, Resolver.apply, Metrics.get?_set, ih]
    by_cases hm : .registrations = m <;> simp [hm]; rfl

/-- A collision that is met is counted. -/
theorem Steps.count_collisions (h : r.Steps collides registers r') :
    r'.metrics.count .collisions = r.metrics.count .collisions + if collides then 1 else 0 := by
  cases h with
  | aside => rfl
  | resolve host =>
    rw [metrics_resolve, Metrics.count_note]
    simp
  | applyAll origin events =>
    rw [Metrics.count, get?_metrics_applyAll, if_neg (by simp)]
    rfl

/-- The number of registrations is set when an event is applied, and does not change else. -/
theorem Steps.registrations (h : r.Steps collides registers r') :
    r'.metrics.get? .registrations = (if registers then some r'.size else r.metrics.get? .registrations) ∧
      (registers = false → r'.size = r.size) := by
  cases h with
  | aside => exact ⟨rfl, fun _ => rfl⟩
  | resolve host =>
    have hsize : (r.resolve host).2.size = r.size := congrArg Store.size (claims_resolve r host)
    refine ⟨?_, fun _ => hsize⟩
    rw [metrics_resolve]
    cases r.isContested host with
    | true => exact Metrics.get?_increment _ _ _
    | false => rfl
  | applyAll origin events =>
    rw [get?_metrics_applyAll]
    cases events with
    | nil => exact ⟨rfl, fun _ => rfl⟩
    | cons e events => exact ⟨by simp, by simp⟩

/-- An origin has as many tenants registered as it has claims: a tenant has one claim of an origin. -/
theorem Sound.card_registered (h : r.Sound) (origin : Origin) :
    (r.registered origin).card = (r.claims.values.filter fun claim => claim.origin = origin).length := by
  have hkeys : (r.claims.values.map Claim.key).Nodup := by
    have hsame : r.claims.values.map Claim.key = r.claims.items.map Prod.fst := by
      rw [Store.values, List.map_map]
      exact List.map_congr_left h.key
    rw [hsame]
    exact h.claims.distinct
  have hpairs : ((r.claims.values.filter fun claim => claim.origin = origin).map Claim.key) =
      ((r.claims.values.filter fun claim => claim.origin = origin).map fun claim => claim.registration.tenant).map (Prod.mk origin) := by
    rw [List.map_map]
    refine List.map_congr_left fun claim hmem => Prod.ext ?_ rfl
    exact of_decide_eq_true (List.mem_filter.1 hmem).2
  have hsub := List.filter_sublist (p := fun claim : Claim => claim.origin = origin) (l := r.claims.values)
  have hnodup := hkeys.sublist (hsub.map Claim.key)
  rw [hpairs] at hnodup
  rw [registered, List.toFinset_card_of_nodup hnodup.of_map, List.length_map]

/-- The number of registrations is that of both origins. -/
theorem Sound.size_eq (h : r.Sound) : r.size = (r.registered .feed).card + (r.registered .configuration).card := by
  have hother : ∀ claim : Claim, (!decide (claim.origin = .feed)) = decide (claim.origin = .configuration) := by
    intro claim
    cases claim.origin <;> rfl
  rw [h.card_registered, h.card_registered, size, Store.size, ← List.length_map Prod.snd,
    List.length_eq_length_filter_add fun claim : Claim => claim.origin = .feed]
  simp only [hother, Store.values]

end Resolver

namespace Catalog

variable {c c' : Catalog} {e : DiscoveryEvent} {live : List (String × ServiceInstance)}

/-- An event that adds or removes an instance sets the number of instances; another one changes nothing. -/
theorem apply_cases (h : c.apply e = .ok c') :
    c.isChangedBy e = false ∧ c' = c ∨ c.isChangedBy e = true ∧ c' = c.recorded c'.instances := by
  cases e with
  | add i =>
    rw [Catalog.apply, add] at h
    cases hadd : c.instances.add i with
    | error error =>
      rw [hadd] at h
      cases h
    | ok result =>
      rw [hadd] at h
      obtain rfl := Except.ok.inj h
      exact Or.inr ⟨rfl, rfl⟩
  | remove id =>
    obtain rfl := Except.ok.inj h
    have hget : c.get? id = c.instances.get? id := rfl
    rw [isChangedBy, remove, Store.remove, hget]
    cases c.instances.get? id with
    | none => exact Or.inl ⟨rfl, rfl⟩
    | some i => exact Or.inr ⟨rfl, rfl⟩

/-- What an operation does to a catalog, with whether it changes the instances. -/
inductive Steps (c : Catalog) : Bool → Catalog → Prop
  | aside : Steps c false c
  | apply {e : DiscoveryEvent} {c' : Catalog} (happly : c.apply e = .ok c') : Steps c (c.isChangedBy e) c'

variable {changes : Bool}

/-- A step of the catalog goes on listing instances. -/
theorem Steps.lists (h : c.Steps changes c') (hc : ∃ live, c.Lists live) : ∃ live, c'.Lists live := by
  obtain ⟨live, hc⟩ := hc
  cases h with
  | aside => exact ⟨live, hc⟩
  | @apply e _ happly =>
    have hlists := hc.apply e
    rw [happly] at hlists
    exact ⟨_, hlists⟩

theorem Steps.keptBy (h : c.Steps changes c') (hkept : c.metrics.KeptBy .catalog) : c'.metrics.KeptBy .catalog := by
  cases h with
  | aside => exact hkept
  | apply happly =>
    rcases apply_cases happly with ⟨-, rfl⟩ | ⟨-, hrecorded⟩
    · exact hkept
    · rw [hrecorded]
      exact hkept.set rfl rfl _

/-- The number of instances is set when they change. -/
theorem Steps.instances (h : c.Steps changes c') :
    c'.metrics.get? .instances = (if changes then some c'.size else c.metrics.get? .instances) ∧
      (changes = false → c'.size = c.size) := by
  cases h with
  | aside => exact ⟨rfl, fun _ => rfl⟩
  | apply happly =>
    rcases apply_cases happly with ⟨hchanges, rfl⟩ | ⟨hchanges, hrecorded⟩
    · rw [hchanges]
      exact ⟨rfl, fun _ => rfl⟩
    · rw [hchanges, hrecorded]
      exact ⟨Metrics.get?_set _ _ _ _, fun hnot => Bool.noConfusion hnot⟩

/-- The instances that are found for a tenant are as many as it has among those listed. -/
theorem Lists.length_ofTenant (h : c.Lists live) (t : TenantId) : (c.ofTenant t.text).length = (c.liveOf t).length := by
  rw [(h.ofTenant_perm t).length_eq, liveOf, Store.values, h.items]

end Catalog

namespace Router

variable {r : Router} {live : List (String × ServiceInstance)}

/-- Whether there are several instances to choose from is told by all that are listed. -/
theorem isAmbiguous_eq (hc : r.catalog.Lists live) (host : String) :
    r.isAmbiguous host = decide (1 < (r.candidates host).length) := by
  rw [isAmbiguous, candidates]
  cases r.resolver.owner host with
  | ok t => exact congrArg (fun n => decide (1 < n)) (hc.length_ofTenant t)
  | error e => rfl

/-- A route is counted when there are several instances to choose from, and by the reason for which it failed. -/
theorem metrics_route (hc : r.catalog.Lists live) (host : String) :
    (r.route host).2.metrics =
      (r.metrics.note (if 1 < (r.candidates host).length then some .multipleCandidates else none)).note
        ((ControlAnswer.routed (r.route host).1).unrouted?.map .unrouted) := by
  have hfirst : (if r.isAmbiguous host then r.metrics.increment .multipleCandidates else r.metrics) =
      r.metrics.note (if 1 < (r.candidates host).length then some .multipleCandidates else none) := by
    rw [isAmbiguous_eq hc]
    simp only [decide_eq_true_eq]
    split <;> rfl
  rw [← hfirst, route]
  dsimp only
  cases r.select host <;> rfl

/-- The answer to a route tells a collision that it met. -/
theorem collides_route (r : Router) (host : String) :
    (ControlAnswer.routed (r.route host).1).collides = r.resolver.isContested host := by
  rw [route_fst, Resolver.isContested]
  cases howner : r.resolver.owner host with
  | ok t =>
    rw [select_of_owner howner]
    cases least? (r.catalog.ofTenant t.text) <;> rfl
  | error e =>
    rw [select_of_error howner]
    cases e <;> rfl

end Router

end TenantGateway
