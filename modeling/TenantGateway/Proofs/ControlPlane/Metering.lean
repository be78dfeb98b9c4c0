import TenantGateway.ControlPlane.Metering
import TenantGateway.Proofs.ControlPlane
import TenantGateway.Proofs.ControlPlane.Closing
import TenantGateway.Proofs.Router.Metering
import TenantGateway.Proofs.Sync.Metering

/-!
# Metrics tell what has happened

Every operation changes the readings of each part by what it does to the part (`ControlStep.meters_composer`,
`ControlStep.sync_metrics`, `ControlStep.resolver_cases`, `ControlStep.catalog_cases`, `ControlStep.router_cases`). So a step adds to a
counter how often it does what the counter counts, and a gauge that was touched stands at its number after every step; over a run the
counters add up (`ControlPlane.reads_what_happened`).
-/

namespace TenantGateway

namespace ControlPlane

/-- The readings that a part keeps. -/
def readings (p : ControlPlane) : MetricKeeper → Metrics
  | .composer => p.composer.metrics
  | .sync => p.sync.metrics
  | .resolver => p.router.resolver.metrics
  | .catalog => p.router.catalog.metrics
  | .router => p.router.metrics

/-- Every part keeps its own metrics, and the registrations and the instances are found by what they are filed under. -/
structure Metered (p : ControlPlane) : Prop where
  kept : ∀ keeper, (p.readings keeper).KeptBy keeper
  claims : p.router.resolver.Sound
  instances : ∃ live, p.router.catalog.Lists live

/-- A metric is read from the part that keeps it. -/
theorem Metered.reading?_eq {p : ControlPlane} (h : p.Metered) (m : Metric) : p.reading? m = (p.readings m.keeper).get? m := by
  have heach : (fun keeper => (p.readings keeper).get? m) =
      fun keeper => if m.keeper = keeper then (p.readings m.keeper).get? m else none := by
    funext keeper
    split
    · rename_i hkeeper
      rw [hkeeper]
    · rename_i hother
      exact (h.kept keeper).own m hother
  have hall : p.reading? m =
      [MetricKeeper.composer, .sync, .resolver, .catalog, .router].findSome? fun keeper => (p.readings keeper).get? m := rfl
  rw [hall, heach]
  generalize (p.readings m.keeper).get? m = value
  cases m.keeper <;> cases value <;> rfl

theorem metered_new (capacity : Nat) (s : LabelSelector) : (ControlPlane.new capacity s).Metered := by
  refine ⟨fun keeper => ?_, Resolver.sound_new, ⟨_, Catalog.lists_new⟩⟩
  cases keeper <;> exact Metrics.keptBy_empty _

/-- A route is answered by the router, and leaves the other parts alone. -/
theorem perform_route (p : ControlPlane) (host : String) :
    p.perform (.route host) = (.routed (p.router.route host).1, { p with router := (p.router.route host).2 }) := by
  rw [perform]

end ControlPlane

namespace ControlStep

variable {x : ControlStep}

/-! ## One step -/

/-- What a step does to each part and to the readings of the part: the composer counts the merge that is answered and the layers that
are lost, an event is counted by its outcome, and a route when there were several instances to choose from and when it failed. -/
theorem meters (h : x.before.Metered) :
    x.before.composer.Meters (x.tally .merges) x.after.composer ∧
    x.after.sync.metrics = x.before.sync.metrics.note (x.synced?.bind fun e => e.2.counter? e.1) ∧
    x.before.router.resolver.Steps x.answer.collides x.registers x.after.router.resolver ∧
    x.before.router.catalog.Steps x.lists x.after.router.catalog ∧
    x.after.router.metrics =
      (x.before.router.metrics.note (if 1 < x.candidates.length then some .multipleCandidates else none)).note
        (x.answer.unrouted?.map .unrouted) := by
  obtain ⟨p, op⟩ := x
  rw [tally, synced?, registers, lists, candidates, answer, after]
  dsimp only
  cases op with
  | merge fragment =>
    rw [ControlPlane.perform]
    cases hmerge : p.composer.merge fragment with
    | ok composer =>
      have hmeters := (Composer.Loses.refl p.composer "").meters_merge hmerge List.not_mem_nil
      exact ⟨hmeters, rfl, .aside, .aside, rfl⟩
    | error e => exact ⟨.refl _, rfl, .aside, .aside, rfl⟩
  | revoke t id =>
    rw [ControlPlane.perform]
    cases hrevoke : p.composer.revoke t id with
    | ok result => exact ⟨(Composer.loses_revoke hrevoke).meters, rfl, .aside, .aside, rfl⟩
    | error e => exact ⟨.refl _, rfl, .aside, .aside, rfl⟩
  | closeComposer => exact ⟨Composer.meters_close _, rfl, .aside, .aside, rfl⟩
  | resource kind event order =>
    rw [ControlPlane.perform]
    cases hhandle : p.sync.handle kind event order with
    | ok result =>
      obtain ⟨outcome, sync⟩ := result
      have hmeters := (Sync.handled hhandle).meters
      refine ⟨?_, Sync.metrics_handle hhandle, .aside, .aside, rfl⟩
      cases outcome <;> exact hmeters
    | error e => exact ⟨.refl _, rfl, .aside, .aside, rfl⟩
  | domain origin event => exact ⟨.refl _, rfl, .applyAll origin [event], .aside, rfl⟩
  | discovery event =>
    rw [ControlPlane.perform]
    cases happly : p.router.catalog.apply event with
    | ok catalog => exact ⟨.refl _, rfl, .aside, .apply happly, rfl⟩
    | error e => exact ⟨.refl _, rfl, .aside, .aside, rfl⟩
  | bridge order => exact ⟨.refl _, rfl, .applyAll .configuration _, .aside, rfl⟩
  | resolve host =>
    have hresolver : p.router.resolver.Steps (ControlAnswer.resolved (p.router.resolver.resolve host).1).collides false
        (p.router.resolver.resolve host).2 := by
      rw [Resolver.collides_resolve]
      exact .resolve host
    rw [ControlPlane.perform]
    generalize p.router.resolver.resolve host = result at hresolver
    exact ⟨.refl _, rfl, hresolver, .aside, rfl⟩
  | route host =>
    have hresolver : p.router.resolver.Steps (ControlAnswer.routed (p.router.route host).1).collides false
        (p.router.route host).2.resolver := by
      rw [Router.collides_route, Router.resolver_route]
      exact .resolve host
    have hcatalog : p.router.catalog.Steps false (p.router.route host).2.catalog := by
      rw [(Router.route_aside p.router host).2]
      exact .aside
    obtain ⟨live, hlists⟩ := h.instances
    have hmetrics := Router.metrics_route hlists host
    rw [ControlPlane.perform_route]
    generalize p.router.route host = result at hresolver hcatalog hmetrics
    exact ⟨.refl _, rfl, hresolver, hcatalog, hmetrics⟩

variable {m : Metric}

/-- A step keeps a control plane metered. -/
theorem metered_after (h : x.before.Metered) : x.after.Metered := by
  obtain ⟨-, hsync, hresolver, hcatalog, hrouter⟩ := meters h
  refine ⟨fun keeper => ?_, hresolver.sound h.claims, hcatalog.lists h.instances⟩
  cases keeper with
  | composer =>
    rcases x.before.writes_perform x.op with hwrites | hclose
    · exact hwrites.keptBy (h.kept .composer)
    · change x.after.composer.metrics.KeptBy .composer
      have hafter : x.after.composer = x.before.composer.close := hclose
      rw [hafter]
      exact h.kept .composer
  | sync =>
    change x.after.sync.metrics.KeptBy .sync
    rw [hsync]
    exact (h.kept .sync).note fun m hm => by
      obtain ⟨synced, -, hcounter⟩ := Option.bind_eq_some_iff.1 hm
      exact SyncOutcome.keeper_of_counter? hcounter
  | resolver => exact hresolver.keptBy (h.kept .resolver)
  | catalog => exact hcatalog.keptBy (h.kept .catalog)
  | router =>
    change x.after.router.metrics.KeptBy .router
    rw [hrouter]
    exact ((h.kept .router).note (by simp [Metric.keeper])).note (by simp [Metric.keeper])

/-- A step adds to a counter as often as it does what the counter counts. -/
theorem count_after (h : x.before.Metered) (hm : m.definition.type = .counter) :
    (x.after.readings m.keeper).count m = (x.before.readings m.keeper).count m + x.tally m := by
  obtain ⟨hcomposer, hsync, hresolver, -, hrouter⟩ := meters h
  cases m with
  | merges => exact hcomposer.merges
  | revokes => exact hcomposer.revokes
  | skipped kind =>
    change x.after.sync.metrics.count _ = x.before.sync.metrics.count _ + _
    have hcounter : SyncOutcome.skipped.counter? kind = some (.skipped kind) := rfl
    rw [hsync, Metrics.count_note, tally]
    simp only [SyncOutcome.bind_counter?_iff hcounter]
  | suppressed kind =>
    change x.after.sync.metrics.count _ = x.before.sync.metrics.count _ + _
    have hcounter : SyncOutcome.suppressed.counter? kind = some (.suppressed kind) := rfl
    rw [hsync, Metrics.count_note, tally]
    simp only [SyncOutcome.bind_counter?_iff hcounter]
  | collisions => exact hresolver.count_collisions
  | unrouted reason =>
    change x.after.router.metrics.count _ = x.before.router.metrics.count _ + _
    rw [hrouter, Metrics.count_note, Metrics.count_note, tally]
    simp
  | multipleCandidates =>
    change x.after.router.metrics.count _ = x.before.router.metrics.count _ + _
    rw [hrouter, Metrics.count_note, Metrics.count_note, tally]
    simp
  | tenants => cases hm
  | registrations => cases hm
  | instances => cases hm

/-- The number of tenants is set by a step that merges or takes layers, and does not change else. -/
theorem tenants_after (h : x.before.Metered) :
    x.after.composer.metrics.get? .tenants =
        (if x.touches .tenants then some x.after.composer.tenants.length else x.before.composer.metrics.get? .tenants) ∧
      (x.touches .tenants = false → x.after.composer.tenants.length = x.before.composer.tenants.length) := by
  have hcalls : x.after.composer.calls = x.before.composer.calls + (x.tally .merges + x.tally .revokes) := (meters h).1.calls_eq
  have hcases : (x.after.composer.metrics = x.before.composer.metrics ∧ x.after.composer.tenants = x.before.composer.tenants) ∨
      x.before.composer.calls < x.after.composer.calls ∧
        x.after.composer.metrics.get? .tenants = some x.after.composer.tenants.length := by
    rcases x.before.writes_perform x.op with hwrites | hclose
    · rcases hwrites.tenants_metered with hsame | hset
      · exact Or.inl ⟨congrArg Composer.metrics hsame, congrArg Composer.tenants hsame⟩
      · exact Or.inr hset
    · have hafter : x.after.composer = x.before.composer.close := hclose
      rw [hafter]
      exact Or.inl ⟨rfl, rfl⟩
  rcases hcases with ⟨hmetrics, htenants⟩ | ⟨hless, hset⟩
  · have htouches : x.touches .tenants = false := by
      rw [Composer.calls, hmetrics, ← Composer.calls] at hcalls
      simp only [touches, decide_eq_false_iff_not]
      omega
    rw [htouches, hmetrics, htenants]
    exact ⟨rfl, fun _ => rfl⟩
  · have htouches : x.touches .tenants = true := by
      simp only [touches, decide_eq_true_eq]
      omega
    rw [htouches]
    exact ⟨hset, fun hnot => Bool.noConfusion hnot⟩

/-- A gauge that a step touches is set to its number, and the number changes only when the gauge is touched. -/
theorem gauge_after (h : x.before.Metered) (hm : m.definition.type = .gauge) :
    (x.after.readings m.keeper).get? m =
        (if x.touches m then some (x.after.level m) else (x.before.readings m.keeper).get? m) ∧
      (x.touches m = false → x.after.level m = x.before.level m) := by
  obtain ⟨-, -, hresolver, hcatalog, -⟩ := meters h
  cases m with
  | tenants => exact tenants_after h
  | registrations =>
    have hsize := (hresolver.sound h.claims).size_eq
    obtain ⟨hset, hkept⟩ := hresolver.registrations
    rw [hsize] at hset hkept
    rw [h.claims.size_eq] at hkept
    exact ⟨hset, hkept⟩
  | instances => exact hcatalog.instances
  | merges => cases hm
  | revokes => cases hm
  | skipped kind => cases hm
  | suppressed kind => cases hm
  | collisions => cases hm
  | unrouted reason => cases hm
  | multipleCandidates => cases hm

end ControlStep

namespace ControlPlane

variable {p : ControlPlane} {m : Metric}

/-! ## Runs -/

/-- The parts of a control plane keep their own metrics in every run. -/
theorem Metered.after (h : p.Metered) (ops : List ControlOp) : (p.after ops).Metered :=
  performAll_invariant (fun op _ _ hq => ControlStep.metered_after (x := ⟨_, op⟩) hq) h

/-- A run adds to a counter what its steps add. -/
theorem Metered.count_after (h : p.Metered) (hm : m.definition.type = .counter) (ops : List ControlOp) :
    ((p.after ops).readings m.keeper).count m = (p.readings m.keeper).count m + p.total ops m := by
  induction ops generalizing p with
  | nil => rfl
  | cons op ops ih =>
    let x : ControlStep := ⟨p, op⟩
    have hstep := ControlStep.count_after (x := x) h hm
    have hrest := ih (p := x.after) (ControlStep.metered_after h)
    have htotal : p.total (op :: ops) m = x.tally m + x.after.total ops m := rfl
    rw [after_cons, htotal, ← Nat.add_assoc]
    exact hrest.trans (congrArg (· + _) hstep)

/-- A gauge shows its number from the first step on that touches it. -/
theorem Metered.gauge_after (h : p.Metered) (hm : m.definition.type = .gauge) {touched : Bool}
    (hgauge : (p.readings m.keeper).get? m = if touched then some (p.level m) else none) (ops : List ControlOp) :
    ((p.after ops).readings m.keeper).get? m =
      if touched || (p.steps ops).any fun x => x.touches m then some ((p.after ops).level m) else none := by
  induction ops generalizing p touched with
  | nil => rw [steps, List.any_nil, Bool.or_false]; exact hgauge
  | cons op ops ih =>
    let x : ControlStep := ⟨p, op⟩
    obtain ⟨hset, hkept⟩ := ControlStep.gauge_after (x := x) h hm
    have hnext : (x.after.readings m.keeper).get? m = if touched || x.touches m then some (x.after.level m) else none := by
      rw [hset]
      cases htouches : x.touches m with
      | true => rw [Bool.or_true]; rfl
      | false =>
        rw [Bool.or_false, hkept htouches]
        exact hgauge
    have hrest := ih (ControlStep.metered_after h) hnext
    rw [after_cons, steps, List.any_cons, ← Bool.or_assoc]
    exact hrest

/-- Metrics tell the truth over every run. Whatever operations are performed on a new control plane, whether they succeed or fail, a
counter reads how often the steps of the run did what it counts: merges that were answered, layers that were lost, events skipped or
suppressed by kind, lookups and routes that met a collision, routes that failed by reason, routes to a tenant with several instances.
And a gauge that was touched reads the present number of tenants with a configuration, of registrations of both origins, of instances.
-/
theorem run_reads_what_happened (capacity : Nat) (selector : LabelSelector) (ops : List ControlOp) (m : Metric) :
    let start := ControlPlane.new capacity selector
    let run := start.after ops
    (m.definition.type = .counter →
      run.reading? m = if start.total ops m = 0 then none else some (start.total ops m)) ∧
    (m.definition.type = .gauge →
      run.reading? m = if (start.steps ops).any fun x => x.touches m then some (run.level m) else none) := by
  intro start run
  have hstart : start.Metered := metered_new capacity selector
  have hrun : run.Metered := hstart.after ops
  rw [hrun.reading?_eq]
  refine ⟨fun hcounter => ?_, fun hgauge => ?_⟩
  · have hnothing : (start.readings m.keeper).count m = 0 := by cases m.keeper <;> rfl
    have hcount := hstart.count_after hcounter ops
    rw [hnothing, Nat.zero_add] at hcount
    rw [(hrun.kept m.keeper).get?_eq hcounter, hcount]
  · have hnothing : (start.readings m.keeper).get? m = if false then some (start.level m) else none := by cases m.keeper <;> rfl
    exact hstart.gauge_after hgauge hnothing ops

/-- A deletion takes a layer from two tenants, a merge is refused, and a host that both claim is routed and looked up in vain. -/
theorem run_reads_what_happened_mixed :
    let a : TenantId := ⟨"a", by decide⟩
    let b : TenantId := ⟨"b", by decide⟩
    let resource (tenant : String) : Resource := ⟨"u", "r", .ofList [("kind", "config"), ("tenant", tenant)], .empty⟩
    let ops : List ControlOp :=
      [.resource .configMap (.added (resource "a")), .resource .configMap (.added (resource "b")),
        .resource .configMap (.deleted ⟨"u", "r", .empty, .empty⟩ true), .resource .secret (.added ⟨"v", "r", .empty, .empty⟩),
        .merge ⟨"f", a, .empty⟩, .closeComposer, .merge ⟨"g", b, .empty⟩, .domain .feed (.put (.ofHosts a ["x.org"])),
        .domain .configuration (.put (.ofHosts b ["x.org"])), .route "x.org", .resolve "x.org"]
    let run := (ControlPlane.new 1 ⟨"tenant", "kind", "config"⟩).after ops
    run.reading? .merges = some 3 ∧ run.reading? .revokes = some 2 ∧ run.reading? (.skipped .secret) = some 1 ∧
      run.reading? .collisions = some 2 ∧ run.reading? (.unrouted .collision) = some 1 ∧
      run.reading? .multipleCandidates = none ∧ run.reading? .tenants = some 1 ∧ run.reading? .registrations = some 2 ∧
      run.reading? .instances = none := by
  intro a b resource ops run
  have hreads := run_reads_what_happened 1 ⟨"tenant", "kind", "config"⟩ ops
  exact ⟨((hreads .merges).1 rfl).trans (by decide), ((hreads .revokes).1 rfl).trans (by decide),
    ((hreads (.skipped .secret)).1 rfl).trans (by decide), ((hreads .collisions).1 rfl).trans (by decide),
    ((hreads (.unrouted .collision)).1 rfl).trans (by decide), ((hreads .multipleCandidates).1 rfl).trans (by decide),
    ((hreads .tenants).2 rfl).trans (by decide), ((hreads .registrations).2 rfl).trans (by decide),
    ((hreads .instances).2 rfl).trans (by decide)⟩

end ControlPlane

end TenantGateway
