import TenantGateway.Gateway.Reach
import TenantGateway.Proofs.Domain.Bridge
import TenantGateway.Proofs.Sync.Channels

/-!
# Coming to rest

A turn takes an item off the queue of a worker, and a step of the bridge leaves it less to receive, so that as many turns as a worker
has a backlog leave it nothing to do (`Gateway.isDone_catchUp`). A worker that has nothing to do is not given anything by those that
come after it in the order of `Gateway.workers`, and so `Gateway.settle` brings every gateway to rest (`Gateway.isAtRest_settle`). A watch
that was asked to end has ended then (`Gateway.reads_shutdown_settle`).
-/

namespace TenantGateway

/-- Whether the turns of a worker can give something to another one: watches change the configuration that the bridge follows, and
the bridge queues registrations. -/
def Worker.feeds : Worker → Worker → Bool
  | .watch _, .bridge => true
  | .bridge, .registrations .configuration => true
  | _, _ => false

namespace Gateway

/-- Whether a worker has nothing to do. -/
def IsDone (g : Gateway) : Worker → Prop
  | .watch kind => g.queues.resources kind = [] ∧ g.adapter.isClosing (channelOf kind) = false
  | .bridge => g.bridge.isIdle g.composer = true
  | .registrations origin => g.queues.domains origin = []
  | .discovery => g.queues.discovered = []

/-- The number of turns that a worker with something to do takes at most before its last one. -/
def turnsBeforeLast (g : Gateway) : Worker → Nat
  | .watch kind => (g.queues.resources kind).length
  | .bridge => g.bridge.subscription.due g.composer.feed
  | .registrations origin => (g.queues.domains origin).length - 1
  | .discovery => g.queues.discovered.length - 1

variable {g : Gateway}

/-! ## One turn -/

/-- A watch takes the oldest event off its queue, and may change the configuration. With nothing in the queue it ends if it was asked
to. -/
theorem handleResource_eq (g : Gateway) (kind : ResourceKind) (order : List TenantId) (heeds : Bool) :
    ∃ adapter, g.adapter.Keeps adapter ∧
      g.handleResource kind order heeds =
        { g with adapter, queues := g.queues.setResources kind (g.queues.resources kind).tail } ∧
      (g.queues.resources kind = [] → adapter.isClosing (channelOf kind) = false) := by
  rw [handleResource]
  cases hqueue : g.queues.resources kind with
  | nil =>
    have hself : g.queues.setResources kind [] = g.queues := by
      rw [← hqueue]
      cases kind <;> rfl
    exact ⟨_, g.adapter.keeps_heed _, by rw [List.tail_nil, hself], fun _ => g.adapter.isClosing_heed _⟩
  | cons event rest =>
    refine ⟨_, ?_, rfl, fun hnil => nomatch hnil⟩
    cases heeds with
    | true => exact (g.adapter.keeps_heed _).trans (Adapter.keeps_deliver _ _ event order)
    | false => exact g.adapter.keeps_deliver _ event order

/-- The registrations of an origin take the oldest event off their queue, and the configuration and the bridge stay as they are. -/
theorem applyDomain_eq (g : Gateway) (origin : Origin) :
    ∃ state, g.applyDomain origin =
      { g with state, queues := g.queues.setDomains origin (g.queues.domains origin).tail } := by
  rw [applyDomain]
  cases hqueue : g.queues.domains origin with
  | nil =>
    have hself : g.queues.setDomains origin [] = g.queues := by
      rw [← hqueue]
      cases origin <;> rfl
    exact ⟨g.state, by rw [List.tail_nil, hself]⟩
  | cons event rest => exact ⟨_, rfl⟩

/-- Discovery takes the oldest report off its queue, and the configuration and the bridge stay as they are. -/
theorem applyDiscovery_eq (g : Gateway) :
    ∃ state, g.applyDiscovery = { g with state, queues := { g.queues with discovered := g.queues.discovered.tail } } := by
  rw [applyDiscovery]
  cases hqueue : g.queues.discovered with
  | nil =>
    have hself : ({ g.queues with discovered := [] } : Queues) = g.queues := by rw [← hqueue]
    exact ⟨g.state, by rw [List.tail_nil, hself]⟩
  | cons event rest => exact ⟨_, rfl⟩

/-- A worker that has nothing to do is left so by the turns of those that do not feed it, and by its own. -/
theorem IsDone.advance {w : Worker} (h : g.IsDone w) {v : Worker} (hfeeds : v.feeds w = false) (order : List TenantId) (heeds : Bool) :
    (g.advance v order heeds).IsDone w := by
  cases v with
  | watch kind =>
    obtain ⟨adapter, hkeeps, heq, -⟩ := g.handleResource_eq kind order heeds
    rw [Gateway.advance, heq]
    cases w with
    | watch k =>
      obtain ⟨hqueue, hclosing⟩ : g.queues.resources k = [] ∧ g.adapter.isClosing (channelOf k) = false := h
      refine ⟨?_, hkeeps.isClosing hclosing⟩
      cases kind <;> cases k <;> simp_all [Queues.resources, Queues.setResources]
    | bridge => exact absurd hfeeds.symm Bool.false_ne_true
    | registrations origin => cases kind <;> cases origin <;> exact h
    | discovery => cases kind <;> exact h
  | bridge =>
    cases w with
    | watch kind => cases kind <;> exact h
    | bridge =>
      have hidle : g.bridge.isIdle g.composer = true := h
      rw [Gateway.advance, stepBridge, Bridge.step_of_isIdle hidle]
      exact h
    | registrations origin =>
      cases origin with
      | feed => exact h
      | configuration => exact absurd hfeeds.symm Bool.false_ne_true
    | discovery => exact h
  | registrations origin =>
    obtain ⟨state, heq⟩ := g.applyDomain_eq origin
    rw [Gateway.advance, heq]
    cases w with
    | watch kind => cases origin <;> cases kind <;> exact h
    | bridge => exact h
    | registrations o =>
      have ho : g.queues.domains o = [] := h
      cases origin <;> cases o <;> simp_all [IsDone, Queues.domains, Queues.setDomains]
    | discovery => cases origin <;> exact h
  | discovery =>
    obtain ⟨state, heq⟩ := g.applyDiscovery_eq
    rw [Gateway.advance, heq]
    cases w with
    | watch kind => cases kind <;> exact h
    | bridge => exact h
    | registrations origin => cases origin <;> exact h
    | discovery =>
      have hnil : g.queues.discovered = [] := h
      simp [IsDone, hnil]

/-- A turn of a worker brings it nearer to its last one. -/
theorem turnsBeforeLast_advance (g : Gateway) (w : Worker) (order : List TenantId) (heeds : Bool) :
    g.IsDone w ∨ (g.advance w order heeds).IsDone w ∨ (g.advance w order heeds).turnsBeforeLast w < g.turnsBeforeLast w := by
  have hqueue : ∀ {α : Type} (l : List α), l = [] ∨ l.tail = [] ∨ l.tail.length - 1 < l.length - 1 := by
    intro α l
    rcases l with _ | ⟨a, _ | ⟨b, rest⟩⟩
    · exact Or.inl rfl
    · exact Or.inr (Or.inl rfl)
    · exact Or.inr (Or.inr (Nat.lt_succ_self _))
  cases w with
  | watch kind =>
    obtain ⟨adapter, -, heq, hclosing⟩ := g.handleResource_eq kind order heeds
    have htail : (g.advance (.watch kind) order heeds).queues.resources kind = (g.queues.resources kind).tail := by
      rw [Gateway.advance, heq]
      cases kind <;> rfl
    rw [IsDone, IsDone, turnsBeforeLast, turnsBeforeLast, htail]
    cases hwaiting : g.queues.resources kind with
    | nil =>
      refine Or.inr (Or.inl ⟨rfl, ?_⟩)
      rw [Gateway.advance, heq]
      exact hclosing hwaiting
    | cons event rest => exact Or.inr (Or.inr (Nat.lt_succ_self _))
  | bridge => exact g.bridge.due_step g.composer order
  | registrations origin =>
    obtain ⟨state, heq⟩ := g.applyDomain_eq origin
    have htail : (g.advance (.registrations origin) order heeds).queues.domains origin = (g.queues.domains origin).tail := by
      rw [Gateway.advance, heq]
      cases origin <;> rfl
    rw [IsDone, IsDone, turnsBeforeLast, turnsBeforeLast, htail]
    exact hqueue _
  | discovery =>
    obtain ⟨state, heq⟩ := g.applyDiscovery_eq
    have htail : (g.advance .discovery order heeds).queues.discovered = g.queues.discovered.tail := by
      rw [Gateway.advance, heq]
    rw [IsDone, IsDone, turnsBeforeLast, turnsBeforeLast, htail]
    exact hqueue _

/-! ## Many turns -/

/-- Turns of those that do not feed a worker leave it nothing to do, if it had nothing to do. -/
theorem IsDone.run {w : Worker} (h : g.IsDone w) {schedule : List Worker} (hfeeds : ∀ v ∈ schedule, v.feeds w = false) :
    (g.run schedule).IsDone w := by
  induction schedule generalizing g with
  | nil => exact h
  | cons v schedule ih =>
    exact ih (h.advance (hfeeds v List.mem_cons_self) [] false) fun v' hv => hfeeds v' (List.mem_cons_of_mem v hv)

/-- No worker gives anything to itself. -/
theorem feeds_self (w : Worker) : w.feeds w = false := by
  cases w <;> rfl

/-- More turns than come before its last one leave a worker nothing to do. -/
theorem isDone_run_replicate {w : Worker} {n : Nat} (h : g.IsDone w ∨ g.turnsBeforeLast w < n) :
    (g.run (List.replicate n w)).IsDone w := by
  have hself : ∀ m, ∀ v ∈ List.replicate m w, v.feeds w = false := by
    intro m v hv
    rw [List.eq_of_mem_replicate hv]
    exact feeds_self w
  induction n generalizing g with
  | zero => exact h.resolve_right (Nat.not_lt_zero _)
  | succ n ih =>
    rcases h with hdone | hlt
    · exact hdone.run (hself _)
    · have hnext : (g.advance w).IsDone w ∨ (g.advance w).turnsBeforeLast w < n := by
        rcases g.turnsBeforeLast_advance w [] false with hdone | hdone | hless
        · exact Or.inl (hdone.advance (feeds_self w) [] false)
        · exact Or.inl hdone
        · exact Or.inr (by omega)
      exact ih hnext

/-- A worker that catches up has nothing left to do. -/
theorem isDone_catchUp (g : Gateway) (w : Worker) : (g.catchUp w).IsDone w := by
  refine isDone_run_replicate ?_
  have hqueue : ∀ {α : Type} (l : List α), l = [] ∨ l.length - 1 < l.length := by
    intro α l
    rcases l with _ | ⟨a, rest⟩
    · exact Or.inl rfl
    · exact Or.inr (Nat.lt_succ_self _)
  cases w with
  | watch kind => exact Or.inr (Nat.lt_succ_self _)
  | bridge =>
    exact Or.inr (Nat.lt_succ_of_le (Subscription.due_le_unread g.bridge.subscription g.composer.feed []))
  | registrations origin => exact hqueue _
  | discovery => exact hqueue _

/-- After catching up one after the other, all workers have nothing to do, when none feeds one that came before it. -/
theorem isDone_foldl_catchUp {schedule : List Worker} (h : schedule.Pairwise fun w v => v.feeds w = false) :
    ∀ w ∈ schedule, (schedule.foldl catchUp g).IsDone w := by
  have hkept : ∀ {later : List Worker} {g : Gateway} {w : Worker}, g.IsDone w → (∀ v ∈ later, v.feeds w = false) →
      (later.foldl catchUp g).IsDone w := by
    intro later g w hdone hfeeds
    induction later generalizing g with
    | nil => exact hdone
    | cons v later ih =>
      have hcaught : (g.catchUp v).IsDone w := hdone.run fun x hx => List.eq_of_mem_replicate hx ▸ hfeeds v List.mem_cons_self
      exact ih hcaught fun x hx => hfeeds x (List.mem_cons_of_mem v hx)
  induction schedule generalizing g with
  | nil => simp
  | cons w schedule ih =>
    obtain ⟨hfirst, hrest⟩ := List.pairwise_cons.1 h
    rw [List.forall_mem_cons, List.foldl_cons]
    exact ⟨hkept (g.isDone_catchUp w) hfirst, ih hrest⟩

/-- A gateway is at rest when nothing is queued and the bridge is idle. -/
theorem isAtRest_iff : g.isAtRest = true ↔ g.queues = .empty ∧ g.bridge.isIdle g.composer = true := by
  rw [isAtRest, Bool.and_eq_true, beq_iff_eq]

/-- A gateway is at rest when no worker has anything to do. -/
theorem isAtRest_of_isDone (h : ∀ w ∈ workers, g.IsDone w) : g.isAtRest = true := by
  have hempty : g.queues = .empty ↔ g.queues.configMaps = [] ∧ g.queues.secrets = [] ∧ g.queues.owned = [] ∧
      g.queues.bridged = [] ∧ g.queues.discovered = [] := by
    cases g.queues
    simp [Queues.empty]
  rw [isAtRest_iff, hempty]
  simp only [workers, List.forall_mem_cons, IsDone, Queues.resources, Queues.domains] at h
  tauto

/-- When all workers have caught up one after the other, none has anything to do. -/
theorem isDone_settle (g : Gateway) : ∀ w ∈ workers, g.settle.IsDone w := isDone_foldl_catchUp (by decide)

/-- Every gateway comes to rest: it is at rest once its workers have caught up one after the other. -/
theorem isAtRest_settle (g : Gateway) : g.settle.isAtRest = true := isAtRest_of_isDone g.isDone_settle

/-- Settling takes nothing but turns of workers. -/
theorem exists_settle_eq_run (g : Gateway) : ∃ turns, g.settle = g.run turns := by
  have hfoldl : ∀ (schedule : List Worker) (g : Gateway), ∃ turns, schedule.foldl catchUp g = g.run turns := by
    intro schedule
    induction schedule with
    | nil => exact fun g => ⟨[], rfl⟩
    | cons w schedule ih =>
      intro g
      obtain ⟨turns, hturns⟩ := ih (g.catchUp w)
      exact ⟨List.replicate (g.backlog w) w ++ turns, hturns.trans List.foldl_append.symm⟩
  exact hfoldl workers g

/-! ## The end of the watches -/

/-- A turn of a worker ends a channel at most, besides what it does to the composer. -/
theorem keeps_advance (g : Gateway) (w : Worker) (order : List TenantId) (heeds : Bool) :
    g.adapter.Keeps (g.advance w order heeds).adapter := by
  cases w with
  | watch kind =>
    obtain ⟨adapter, hkeeps, heq, -⟩ := g.handleResource_eq kind order heeds
    rw [Gateway.advance, heq]
    exact hkeeps
  | bridge => exact .refl _
  | registrations origin =>
    obtain ⟨state, heq⟩ := g.applyDomain_eq origin
    rw [Gateway.advance, heq]
    exact .refl _
  | discovery =>
    obtain ⟨state, heq⟩ := g.applyDiscovery_eq
    rw [Gateway.advance, heq]
    exact .refl _

/-- Turns of workers end channels at most, besides what they do to the composer. -/
theorem keeps_run (g : Gateway) (schedule : List Worker) : g.adapter.Keeps (g.run schedule).adapter := by
  induction schedule generalizing g with
  | nil => exact .refl _
  | cons w schedule ih => exact (g.keeps_advance w [] false).trans (ih _)

/-- In every step of a gateway the registered watches stay the channels that nobody asked to end. -/
theorem registered_after (h : g.adapter.Registered) (step : GatewayStep) : (g.after step).adapter.Registered := by
  cases step with
  | resource kind event =>
    rw [Gateway.after, sendResource]
    split <;> exact h
  | domain event => exact h
  | discovery event => exact h
  | replay seed => exact h
  | configure op => exact ⟨h.distinct, h.mem_iff⟩
  | turn worker order heeds => exact h.keeps (g.keeps_advance worker order heeds)
  | route host => exact h
  | serve request => exact h
  | markReady => exact h
  | shutdown => exact ⟨h.closed.distinct, h.closed.mem_iff⟩

/-- In every reachable gateway the registered watches are the channels that nobody asked to end. -/
theorem Reachable.registered (h : g.Reachable) : g.adapter.Registered := by
  obtain ⟨settings, steps, -, rfl⟩ := h
  have hstart : (start settings).adapter.Registered :=
    ((Adapter.registered_new (.new settings.feedCapacity) settings.labels).watch .configMap).watch .secret
  generalize start settings = g at hstart ⊢
  induction steps generalizing g with
  | nil => exact hstart
  | cons step steps ih => exact ih (g.after step) (registered_after hstart step)

/-- A gateway that is shut down has asked all its watches to end. -/
theorem isAsked_shutdown (h : g.adapter.Registered) {n : Nat} {kind : ResourceKind} (hkind : g.shutdown.adapter.kind? n = some kind) :
    g.shutdown.adapter.isAsked n = true := by
  obtain ⟨-, -, -, hkinds, -, hasked⟩ := h.close
  have hopened : g.adapter.kind? n = some kind := (hkinds n).symm.trans hkind
  have hn : g.adapter.close.2.isAsked n = true := by rw [hasked, hopened]; rfl
  exact hn

/-- When a gateway is shut down and has come to rest, its watches have ended: nobody reads resources anymore. -/
theorem reads_shutdown_settle (h : g.Reachable) (kind : ResourceKind) : g.shutdown.settle.reads (.resources kind) = false := by
  have hdone := g.shutdown.isDone_settle (.watch kind) (by cases kind <;> simp [workers])
  have hkeeps : g.shutdown.adapter.Keeps g.shutdown.settle.adapter := by
    obtain ⟨turns, hturns⟩ := g.shutdown.exists_settle_eq_run
    rw [hturns]
    exact g.shutdown.keeps_run turns
  generalize g.shutdown.settle = settled at hdone hkeeps ⊢
  refine Bool.eq_false_iff.2 fun halive => Bool.eq_false_iff.1 hdone.2 (Bool.and_eq_true_iff.2 ⟨halive, ?_⟩)
  obtain ⟨k, hk⟩ := Adapter.kind?_of_isAlive halive
  rw [hkeeps.asked]
  exact isAsked_shutdown h.registered ((hkeeps.kinds _).symm.trans hk)

end Gateway

end TenantGateway
