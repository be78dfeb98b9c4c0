import TenantGateway.Proofs.Domain.Bridge
import TenantGateway.Proofs.Gateway.Readiness
import TenantGateway.Proofs.Seed.Sending
import TenantGateway.Proofs.Sync.Independence

/-!
# What a gateway has done of what it was sent

As long as nobody else writes its composer and it is not shut down, a gateway has handled all that it was sent except what is queued,
each feed in its order, and its bridge is on the way to the present configurations (`Gateway.Tracks`). Every step keeps this account
(`Tracks.after`), so in a gateway at rest everything is handled.
-/

namespace TenantGateway

/-- The events of a kind are found part by part. -/
theorem eventsOfKind_append (kind : ResourceKind) (events more : List (ResourceKind × ResourceEvent)) :
    eventsOfKind kind (events ++ more) = eventsOfKind kind events ++ eventsOfKind kind more := by
  simp [eventsOfKind]

theorem mem_eventsOfKind {kind : ResourceKind} {events : List (ResourceKind × ResourceEvent)} {e : ResourceEvent} :
    e ∈ eventsOfKind kind events ↔ (kind, e) ∈ events := by
  simp [eventsOfKind]

/-- Replacing the queue of one kind leaves that of the other. -/
theorem Queues.resources_setResources (q : Queues) (kind : ResourceKind) (events : List ResourceEvent) (k : ResourceKind) :
    (q.setResources kind events).resources k = if kind = k then events else q.resources k := by
  cases kind <;> cases k <;> rfl

/-- The queues beside those of resources stay as they are. -/
theorem Queues.setResources_aside (q : Queues) (kind : ResourceKind) (events : List ResourceEvent) :
    (q.setResources kind events).owned = q.owned ∧ (q.setResources kind events).bridged = q.bridged ∧
      (q.setResources kind events).discovered = q.discovered := by
  cases kind <;> exact ⟨rfl, rfl, rfl⟩

/-- A seed is replayed as a whole when somebody reads every feed. -/
theorem Seed.replay_of_open (seed : Seed) {ends : FeedEnds} (hwatched : ∀ kind, ends.watched kind = true)
    (hopen : ∀ feed, ends.isOpen feed = true) : seed.replay ends = (seed, none) := by
  have hresources : seed.watchedResources ends = seed.resources := List.filter_eq_self.2 fun r _ => hwatched r.kind
  rw [replay, hresources, sendWhile_of_open fun _ _ => hopen _, sendWhile_of_open fun _ _ => hopen _,
    sendWhile_of_open fun _ _ => hopen _]

/-- A seed brings in its resources as additions, its registrations as puts and its instances as additions. -/
theorem Seed.filterMap_ops (seed : Seed) :
    seed.ops.filterMap ControlOp.resource? = seed.resources.map (fun r => (r.kind, .added r.resource)) ∧
    seed.ops.filterMap ControlOp.owned? = seed.registrations.map .put ∧
    seed.ops.filterMap ControlOp.discovery? = seed.instances.map .add := by
  simp [ops, List.filterMap_append, List.filterMap_map, Function.comp_def, ControlOp.resource?, ControlOp.owned?,
    ControlOp.discovery?]

namespace Gateway

/-- What a gateway was sent, it has handled except for what is queued, beginning with the given configuration, and its bridge follows
the configuration, with the registrations that it has queued. -/
structure Tracks (g : Gateway) (initial : Sync) (sent : List ControlOp) : Prop where
  running : g.adapter.channels = [⟨.configMap, false, false⟩, ⟨.secret, false, false⟩]
  isOpen : g.composer.feed.closed = false
  keeps : ∀ e ∈ sent.filterMap ControlOp.resource?, e.2.KeepsUid
  handled : ∃ ops : List SyncOp, g.adapter.sync = (performAll Sync.perform initial ops).2 ∧
    ∀ kind, eventsOfKind kind (ops.map SyncOp.report) ++ g.queues.resources kind =
      eventsOfKind kind (sent.filterMap ControlOp.resource?)
  bridge : g.bridge.Follows g.composer (g.resolver.applyAll .configuration g.queues.bridged)
  owned : ∃ applied, (∀ t, g.resolver.hosts? .feed t = DomainEvent.hostsAfter t applied) ∧
    applied ++ g.queues.owned = sent.filterMap ControlOp.owned?
  found : ∃ applied, g.catalog.Lists (DiscoveryEvent.live applied) ∧
    applied ++ g.queues.discovered = sent.filterMap ControlOp.discovery?

variable {g : Gateway} {initial : Sync} {sent : List ControlOp}

theorem tracks_start (settings : Settings) :
    (start settings).Tracks (.new (.new settings.feedCapacity) settings.labels) [] := by
  refine ⟨rfl, rfl, by simp, ⟨[], rfl, fun kind => ?_⟩, ?_, ⟨[], fun t => rfl, rfl⟩, ⟨[], Catalog.lists_new, rfl⟩⟩
  · cases kind <;> rfl
  · exact Bridge.follows_new _ [] fun t => rfl

/-! ## Sending -/

/-- What is sent is queued behind what was sent before. -/
theorem Tracks.enqueue (h : g.Tracks initial sent) {ops : List ControlOp} {queues : Queues}
    (hkeeps : ∀ e ∈ ops.filterMap ControlOp.resource?, e.2.KeepsUid)
    (hresources : ∀ kind, queues.resources kind =
      g.queues.resources kind ++ eventsOfKind kind (ops.filterMap ControlOp.resource?))
    (howned : queues.owned = g.queues.owned ++ ops.filterMap ControlOp.owned?)
    (hdiscovered : queues.discovered = g.queues.discovered ++ ops.filterMap ControlOp.discovery?)
    (hbridged : queues.bridged = g.queues.bridged) : Tracks { g with queues } initial (sent ++ ops) := by
  obtain ⟨handled, hsync, haccount⟩ := h.handled
  obtain ⟨applied, hhosts, happlied⟩ := h.owned
  obtain ⟨added, hlists, hadded⟩ := h.found
  refine ⟨h.running, h.isOpen, ?_, ⟨handled, hsync, fun kind => ?_⟩, ?_, ⟨applied, hhosts, ?_⟩, ⟨added, hlists, ?_⟩⟩
  · rw [List.filterMap_append]
    intro e he
    rcases List.mem_append.1 he with he | he
    · exact h.keeps e he
    · exact hkeeps e he
  · dsimp only
    rw [hresources, ← List.append_assoc, haccount, List.filterMap_append, eventsOfKind_append]
  · have hbridge := h.bridge
    rw [← hbridged] at hbridge
    exact hbridge
  · dsimp only
    rw [howned, ← List.append_assoc, happlied, List.filterMap_append]
  · dsimp only
    rw [hdiscovered, ← List.append_assoc, hadded, List.filterMap_append]

/-- While both watches run, somebody reads every feed. -/
theorem Tracks.reads (h : g.Tracks initial sent) (feed : FeedName) : g.reads feed = true := by
  cases feed with
  | resources kind =>
    rw [Gateway.reads, Adapter.isAlive, h.running]
    cases kind <;> rfl
  | domains => rfl
  | discovery => rfl

/-! ## Working -/

/-- While both watches run, there is no request to end that they could heed. -/
theorem Tracks.heed (h : g.Tracks initial sent) (kind : ResourceKind) : g.adapter.heed (channelOf kind) = g.adapter := by
  rw [Adapter.heed, Adapter.isAsked, h.running]
  cases kind <;> rfl

/-- A watch handles the oldest event in its queue. -/
theorem Tracks.handleResource (h : g.Tracks initial sent) (kind : ResourceKind) (order : List TenantId) (heeds : Bool) :
    (g.handleResource kind order heeds).Tracks initial sent := by
  rw [Gateway.handleResource, h.heed, ite_self]
  cases hqueue : g.queues.resources kind with
  | nil => exact h
  | cons event rest =>
    obtain ⟨ops, hsync, haccount⟩ := h.handled
    have hkeeps : event.KeepsUid := by
      have hsent : event ∈ eventsOfKind kind (sent.filterMap ControlOp.resource?) := by
        rw [← haccount kind, hqueue]
        simp
      exact h.keeps _ (mem_eventsOfKind.1 hsent)
    obtain ⟨held, hheld⟩ : ∃ held : Bool, held = true ↔ ∃ t, (((g.composer.configuration? t).bind
        fun configuration => configuration.layer? event.uid) : Option Properties).isSome = true := by
      classical exact ⟨decide _, decide_eq_true_iff⟩
    have hdoes : g.adapter.sync.Does (g.adapter.sync.handle kind event order) _ _ _ :=
      Sync.does_handle (Composer.hasLayers_of_open h.isOpen) hkeeps order hheld
    obtain ⟨sync, hhandle, -, hlayers⟩ := hdoes
    have hdelivered : g.adapter.deliver (channelOf kind) event order = { g.adapter with sync } := by
      have hchannel : g.adapter.channels[channelOf kind]? = some ⟨kind, false, false⟩ := by
        rw [h.running]
        cases kind <;> rfl
      rw [Adapter.deliver, hchannel]
      dsimp only
      rw [hhandle]
    obtain ⟨howned, hbridged, hdiscovered⟩ := g.queues.setResources_aside kind rest
    dsimp only
    rw [hdelivered]
    refine ⟨h.running, hlayers.isOpen, h.keeps, ⟨ops ++ [⟨kind, event, order⟩], ?_, fun k => ?_⟩, ?_, ?_, ?_⟩
    · rw [performAll_append, ← hsync, performAll_cons, Sync.perform, hhandle]
      rfl
    · dsimp only
      rw [Queues.resources_setResources, List.map_append, eventsOfKind_append, ← haccount k]
      by_cases hk : kind = k
      · subst hk
        simp [hqueue, eventsOfKind, SyncOp.report]
      · simp [hk, eventsOfKind, SyncOp.report]
    · have hgrown := h.bridge.grow (Sync.growsTo_handle hhandle)
      rw [← hbridged] at hgrown
      exact hgrown
    · obtain ⟨applied, hhosts, happlied⟩ := h.owned
      exact ⟨applied, hhosts, howned ▸ happlied⟩
    · obtain ⟨added, hlists, hadded⟩ := h.found
      exact ⟨added, hlists, hdiscovered ▸ hadded⟩

/-- The oldest event of an origin is applied, and does not concern the registrations of the other origin. -/
theorem Tracks.applyDomain (h : g.Tracks initial sent) (hindexed : g.Indexed) (origin : Origin) :
    (g.applyDomain origin).Tracks initial sent := by
  have hsound := hindexed.resolver
  obtain ⟨applied, hhosts, happlied⟩ := h.owned
  rw [Gateway.applyDomain]
  cases origin with
  | feed =>
    cases hqueue : g.queues.owned with
    | nil => simpa [Queues.domains, hqueue] using h
    | cons event rest =>
      simp only [Queues.domains, hqueue]
      refine ⟨h.running, h.isOpen, h.keeps, h.handled, ?_, ⟨applied ++ [event], fun t => ?_, ?_⟩, h.found⟩
      · have hapart : ∀ t, (g.resolver.apply .feed event).hosts? .configuration t = g.resolver.hosts? .configuration t :=
          fun t => (hsound.hosts?_apply .feed event .configuration t).trans (if_neg (by decide))
        exact h.bridge.congr (hsound.hosts?_applyAll_congr (hsound.apply .feed event) hapart g.queues.bridged)
      · rw [DomainEvent.hostsAfter_snoc, ← hhosts t]
        exact (hsound.hosts?_apply .feed event .feed t).trans (if_pos rfl)
      · rw [List.append_assoc, ← happlied, hqueue]
        rfl
  | configuration =>
    cases hqueue : g.queues.bridged with
    | nil => simpa [Queues.domains, hqueue] using h
    | cons event rest =>
      simp only [Queues.domains, hqueue]
      refine ⟨h.running, h.isOpen, h.keeps, h.handled, ?_, ⟨applied, fun t => ?_, happlied⟩, h.found⟩
      · have hbridge := h.bridge
        rw [hqueue] at hbridge
        exact hbridge
      · rw [← hhosts t]
        exact (hsound.hosts?_apply .configuration event .feed t).trans (if_neg (by decide))

theorem Tracks.applyDiscovery (h : g.Tracks initial sent) : g.applyDiscovery.Tracks initial sent := by
  obtain ⟨added, hlists, hadded⟩ := h.found
  rw [Gateway.applyDiscovery]
  cases hqueue : g.queues.discovered with
  | nil => exact h
  | cons event rest =>
    refine ⟨h.running, h.isOpen, h.keeps, h.handled, h.bridge, h.owned, added ++ [event], ?_, ?_⟩
    · have hlive : DiscoveryEvent.live (added ++ [event]) = event.applyTo (DiscoveryEvent.live added) := List.foldl_append
      rw [hlive]
      exact hlists.apply event
    · rw [List.append_assoc, ← hadded, hqueue]
      rfl

/-- The bridge queues what it publishes behind what it published before. -/
theorem Tracks.stepBridge (h : g.Tracks initial sent) (hindexed : g.Indexed) (order : List TenantId) :
    (g.stepBridge order).Tracks initial sent := by
  refine ⟨h.running, h.isOpen, h.keeps, h.handled, ?_, h.owned, h.found⟩
  have hstep := h.bridge.step (hindexed.resolver.applyAll .configuration g.queues.bridged) order
  have happend : g.resolver.applyAll .configuration (g.queues.bridged ++ (g.bridge.step g.composer order).1) =
      (g.resolver.applyAll .configuration g.queues.bridged).applyAll .configuration (g.bridge.step g.composer order).1 :=
    List.foldl_append
  rw [← happend] at hstep
  exact hstep

/-! ## Every step -/

/-- Requests leave everything alone but what they count. -/
theorem Tracks.congr (h : g.Tracks initial sent) (hindexed : g.Indexed) {state : RoutingState}
    (hclaims : state.router.resolver.claims = g.resolver.claims) (hcatalog : state.router.catalog = g.catalog) :
    Tracks { g with state } initial sent := by
  refine ⟨h.running, h.isOpen, h.keeps, h.handled, ?_, ?_, ?_⟩
  · have hsound := hindexed.resolver
    exact h.bridge.congr (hsound.hosts?_applyAll_congr (hsound.congr hclaims) (Resolver.hosts?_congr hclaims .configuration) _)
  · obtain ⟨applied, hhosts, happlied⟩ := h.owned
    exact ⟨applied, fun t => (Resolver.hosts?_congr hclaims .feed t).trans (hhosts t), happlied⟩
  · obtain ⟨added, hlists, hadded⟩ := h.found
    rw [← hcatalog] at hlists
    exact ⟨added, hlists, hadded⟩

/-- Every step that brings in events only keeps the account of what was sent. -/
theorem Tracks.after (h : g.Tracks initial sent) (hindexed : g.Indexed) {step : GatewayStep}
    (hevents : ∀ op ∈ step.inputs, op.IsEvent) (hkeeps : ∀ e ∈ step.inputs.filterMap ControlOp.resource?, e.2.KeepsUid) :
    (g.after step).Tracks initial (sent ++ step.inputs) := by
  cases step with
  | resource kind event =>
    rw [Gateway.after, sendResource, if_pos (h.reads _), Option.getD_some]
    obtain ⟨howned, hbridged, hdiscovered⟩ := g.queues.setResources_aside kind (g.queues.resources kind ++ [event])
    refine h.enqueue hkeeps (fun k => ?_) (howned.trans (List.append_nil _).symm) (hdiscovered.trans (List.append_nil _).symm)
      hbridged
    rw [Queues.resources_setResources]
    by_cases hk : kind = k
    · subst hk
      simp [GatewayStep.inputs, ControlOp.resource?, eventsOfKind]
    · simp [GatewayStep.inputs, ControlOp.resource?, eventsOfKind, hk]
  | domain event =>
    exact h.enqueue hkeeps (fun k => by cases k <;> exact (List.append_nil _).symm) rfl (List.append_nil _).symm rfl
  | discovery event =>
    exact h.enqueue hkeeps (fun k => by cases k <;> exact (List.append_nil _).symm) (List.append_nil _).symm rfl rfl
  | replay seed =>
    obtain ⟨hresources, howned, hdiscovered⟩ := seed.filterMap_ops
    rw [Gateway.after, seed.replay_of_open (fun _ => rfl) h.reads]
    have hqueued : ∀ k, (seed.resources.filter fun r => r.kind == k).map (fun r => .added r.resource) =
        eventsOfKind k (seed.ops.filterMap ControlOp.resource?) := by
      intro k
      rw [hresources, eventsOfKind, List.filter_map, List.map_map]
      rfl
    refine h.enqueue hkeeps (fun k => ?_) (congrArg _ howned.symm) (congrArg _ hdiscovered.symm) rfl
    cases k <;> exact congrArg _ (hqueued _)
  | configure op =>
    have hop := hevents op.control List.mem_cons_self
    cases op <;> exact hop.elim
  | turn worker order heeds =>
    rw [GatewayStep.inputs, List.append_nil]
    cases worker with
    | watch kind => exact h.handleResource kind order heeds
    | bridge => exact h.stepBridge hindexed order
    | registrations origin => exact h.applyDomain hindexed origin
    | discovery => exact h.applyDiscovery
  | route host =>
    obtain ⟨hclaims, hcatalog⟩ := g.route_aside host
    rw [GatewayStep.inputs, List.append_nil]
    exact h.congr hindexed hclaims hcatalog
  | serve request =>
    obtain ⟨hclaims, hcatalog⟩ := g.serve_aside request
    rw [GatewayStep.inputs, List.append_nil]
    exact h.congr hindexed hclaims hcatalog
  | markReady =>
    rw [GatewayStep.inputs, List.append_nil]
    exact h.congr hindexed rfl rfl
  | shutdown => exact (hevents .closeComposer List.mem_cons_self).elim

/-- Every run of steps that bring in events only keeps the account of what was sent. -/
theorem Tracks.foldl_after (h : g.Tracks initial sent) (hindexed : g.Indexed) {steps : List GatewayStep}
    (hevents : ∀ op ∈ steps.flatMap GatewayStep.inputs, op.IsEvent)
    (hkeeps : ∀ e ∈ (steps.flatMap GatewayStep.inputs).filterMap ControlOp.resource?, e.2.KeepsUid) :
    (steps.foldl Gateway.after g).Tracks initial (sent ++ steps.flatMap GatewayStep.inputs) := by
  induction steps generalizing g sent with
  | nil => simpa using h
  | cons step steps ih =>
    rw [List.flatMap_cons] at hevents hkeeps ⊢
    rw [List.filterMap_append] at hkeeps
    have hstep := h.after hindexed (fun op hop => hevents op (List.mem_append_left _ hop))
      fun e he => hkeeps e (List.mem_append_left _ he)
    rw [← List.append_assoc]
    exact ih hstep (hindexed.after step) (fun op hop => hevents op (List.mem_append_right _ hop))
      fun e he => hkeeps e (List.mem_append_right _ he)

end Gateway

end TenantGateway
